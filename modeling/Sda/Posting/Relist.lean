/-
Sda/Posting/Relist.lean

One relist of a listing (posting/services/relist.py): the old offer is deleted, a new one
is created with the same payload, and the database follows in one transaction.

What the run meets is a `RelistRun`: the payload, the marketplace's replies, and what each
call came to at the marketplace.  A reply that confirms the delete of an offer is taken
at its word (`RelistRun.truthful`); every other reply says nothing about it.

* `relist_safe_iff` — a relist creates only after a confirmed delete, never beside a live
  offer of the same credentials, and leaves no listing that claims an offer it has deleted,
  exactly when it meets `RelistFits`;
* `relist_duplicates` — a delete that is answered with an error, and an update of the
  database that fails after the delete.
-/
import Sda.Lib.Table
import Sda.Lib.Text
import Sda.Pool.Db
import Sda.Sdk.Result

namespace Sda.Relist

/-! ### The database -/

structure Listing where
  integrationAccount : Nat
  game : Option Nat := none
  storeListingId : String
  productCategory : String := "accounts"
  variant : String := ""
  status : ListingStatus := .listed
  title : String := ""
  price : String := ""
  currency : String := "USD"
  listedAt : Option Nat := none
  marketplaceExpiresAt : Option Nat := none
  removedAt : Option Nat := none
  isInstant : Bool := true
  dropshipProduct : Option Nat := none
  deriving DecidableEq, Repr

structure PoolOffer where
  listing : Nat
  status : PoolOfferStatus := .active
  lastError : String := ""
  deriving DecidableEq, Repr

structure OfferPoolActiveOffer where
  listing : Option Nat
  storeListingId : String
  poolItem : Option Nat := none
  deriving DecidableEq, Repr

structure RelistDb where
  listings : Table Listing := .empty
  links : Table ListingOwnedProduct := .empty
  products : Table OwnedProduct := .empty
  /-- The listing of each legacy pool. -/
  pools : Table (Option Nat) := .empty
  poolOffers : Table PoolOffer := .empty
  activeOffers : Table OfferPoolActiveOffer := .empty
  /-- The `target_offer_id` of each pool item. -/
  items : Table String := .empty

/-- **`_mark_deleted`** -/
def markDeleted (db : RelistDb) (k : Nat) (old : Listing) (now : Nat) : RelistDb :=
  { db with listings := db.listings.set k { old with status := .deleted, removedAt := some now } }

/-- The listing that takes over. -/
def Listing.replacement (old : Listing) (newOfferId : String) (now : Nat)
    (expiresAt : Option Nat) (variantOverride : Option String) : Listing :=
  { old with
    storeListingId := newOfferId
    variant := variantOverride.getD old.variant
    status := .listed
    listedAt := some now
    marketplaceExpiresAt := expiresAt
    removedAt := none }

/-- **`_replace_in_db`**, as it commits, with the key of the new listing. -/
def replaceInDb (db : RelistDb) (k : Nat) (old : Listing) (newOfferId : String) (now : Nat)
    (expiresAt : Option Nat) (variantOverride : Option String) : RelistDb × Nat :=
  let ownedProducts := (db.links.select fun _ l => l.listing == k).map fun l => l.2.ownedProduct
  let handed := (db.activeOffers.select fun _ a => a.listing == some k).filterMap fun a =>
    a.2.poolItem
  let db := markDeleted db k old now
  let new := db.listings.nextKey
  ({ listings := db.listings.create
       (old.replacement newOfferId now expiresAt variantOverride)
     links := ownedProducts.foldl (fun links p => links.create ⟨new, p⟩) db.links
     products := db.products.updateWhere
       (fun p row => ownedProducts.contains p && row.status == .draft)
       fun row => { row with status := .listed }
     pools := db.pools.updateWhere (fun _ listing => listing == some k) fun _ => some new
     poolOffers := db.poolOffers.updateWhere (fun _ o => o.listing == k) fun o =>
       { o with listing := new, status := .active, lastError := "" }
     activeOffers := db.activeOffers.updateWhere (fun _ a => a.listing == some k) fun a =>
       { a with listing := some new, storeListingId := newOfferId }
     items := db.items.updateWhere (fun i _ => handed.contains i) fun _ => newOfferId }, new)

/-! ### Replies of the marketplace -/

/-- `accountSecretDetails` of a payload. -/
inductive SecretDetails
  | absent
  | text (secret : String)
  | entries (secrets : List String)
  deriving DecidableEq, Repr

def SecretDetails.present : SecretDetails → Bool
  | .absent => false
  | .text secret => stripText secret != ""
  | .entries secrets => !secrets.isEmpty

/-- A create-ready payload: the keys the relist or a provider looks at. -/
structure Payload where
  game : String := ""
  augmentedGame : String := ""
  accountSecretDetails : SecretDetails := .absent
  quantity : Nat := 1
  deriving DecidableEq, Repr

/-- The body of a delete; `isSuccess` is that of a legacy PlayerAuctions cancellation. -/
structure CancelBody where
  isSuccess : Option Bool := none
  deriving DecidableEq, Repr

/-- How `provider.delete_listing` ends. -/
inductive DeleteReply
  | raised (message : String)
  | answered (result : ApiResult CancelBody)
  deriving DecidableEq, Repr

def DeleteReply.returned : DeleteReply → Bool
  | .raised _ => false
  | .answered _ => true

/-- The reply says that there is no such offer any more: a success, or "not found". -/
def DeleteReply.confirms : DeleteReply → Bool
  | .raised _ => false
  | .answered (.success body _) => body.isSuccess != some false
  | .answered (.failure error _) => error.category == .notFound

/-- The data of a create. -/
inductive CreateData
  | missing
  /-- A response object, with its attributes and its text. -/
  | object (offerId id : Option String) (text : String)
  | dict (id offerId offer_id : Option String)
  deriving DecidableEq, Repr

/-- How `provider.create_listing` ends. -/
inductive CreateReply
  | raised (message : String)
  | nothing
  | answered (result : ApiResult CreateData)
  deriving DecidableEq, Repr

/-- `a or b`, of texts that may be missing. -/
def orText (a b : Option String) : Option String :=
  if a.getD "" = "" then b else a

/-- **`_extract_offer_id`** -/
def extractOfferId : CreateReply → Option String
  | .answered (.success (.object (some offerId) _ _) _) => some offerId
  | .answered (.success (.object none (some id) _) _) => some id
  | .answered (.success (.object none none text) _) => some text
  | .answered (.success (.dict id offerId offer_id) _) =>
    some ((orText (orText id offerId) offer_id).getD "")
  | _ => none

/-- The new offer's id, or the text of the error. -/
def createOutcome (reply : CreateReply) : Except String String :=
  match reply with
  | .raised message => .error ("Create failed (old offer deleted): " ++ message)
  | .answered (.failure error _) =>
    .error ("Create API failed (old offer deleted): " ++ error.text)
  | reply =>
    match extractOfferId reply with
    | some id =>
      if id = "" then .error "Create succeeded but could not extract new offer ID" else .ok id
    | none => .error "Create succeeded but could not extract new offer ID"

/-- `_ITEM_OFFER_GAMES` of GameBoost. -/
def itemOfferGames : List String := ["steal-a-brainrot", "new-world"]

/-- Whether `delete_listing` addresses the kind of offer the listing has: it is called without
a game slug, so GameBoost deletes an account offer. -/
def addressesOffer (marketplace : Provider) (payload : Payload) : Bool :=
  !(marketplace == .gameboost && itemOfferGames.contains payload.game)

/-! ### A run -/

/-- What one call of `relist_listing` is given and meets. -/
structure RelistRun where
  now : Nat := 0
  marketplace : Provider
  hasCredential : Bool := true
  augmentedGameOverride : Option String := none
  variantOverride : Option String := none
  /-- An exception before the delete. -/
  unprepared : Option String := none
  /-- `_extract_payload` -/
  extracted : Option Payload
  /-- `_fetch_eldorado_credentials` -/
  fetched : List String := []
  deleteReply : DeleteReply
  /-- The delete took the offer off the marketplace. -/
  removed : Bool
  createReply : CreateReply
  /-- The create put an offer on the marketplace. -/
  created : Bool
  /-- The expiry of the new offer. -/
  expiresAt : Option Nat := none
  /-- The last transaction commits. -/
  commits : Bool := true
  truthful : (extracted.any (addressesOffer marketplace) && deleteReply.confirms) = true →
    removed = true

/-- The payload that is sent, or the text of the error. -/
def buildPayload (r : RelistRun) : Except String Payload :=
  if !r.hasCredential then .error "No integration account or credential"
  else
    match r.extracted with
    | none => .error "Cannot extract payload from raw_data"
    | some payload =>
      if r.marketplace == .eldorado then
        let payload := { payload with
          augmentedGame := r.augmentedGameOverride.getD payload.augmentedGame }
        if payload.accountSecretDetails.present then .ok payload
        else if r.fetched.isEmpty then
          .error "Listing has no credential data and could not fetch from API."
        else .ok { payload with
          accountSecretDetails := .entries r.fetched, quantity := r.fetched.length }
      else .ok payload

/-- How `relist_listing` ends. -/
inductive RelistResult
  | relisted (newListing : Nat)
  | failed (error : String)
  | raised
  deriving DecidableEq, Repr

/-- What a run has done. -/
structure RelistOutcome where
  db : RelistDb
  result : RelistResult
  deleteSent : Bool := false
  createSent : Bool := false

/-- The old offer is gone or taken to be: the create, and the database after it. -/
def createNew (r : RelistRun) (db : RelistDb) (k : Nat) (old : Listing) (deleteSent : Bool) :
    RelistOutcome :=
  match createOutcome r.createReply with
  | .error text =>
    if r.commits then
      { db := markDeleted db k old r.now, result := .failed text, deleteSent, createSent := true }
    else { db, result := .raised, deleteSent, createSent := true }
  | .ok newOfferId =>
    if r.commits then
      let (db, new) := replaceInDb db k old newOfferId r.now r.expiresAt r.variantOverride
      { db, result := .relisted new, deleteSent, createSent := true }
    else { db, result := .raised, deleteSent, createSent := true }

/-- **`relist_listing`** -/
def relistListing (r : RelistRun) (db : RelistDb) (k : Nat) (old : Listing) : RelistOutcome :=
  match r.unprepared with
  | some _ => { db, result := .raised }
  | none =>
    match buildPayload r with
    | .error text => { db, result := .failed text }
    | .ok _ =>
      if old.status = .deleted then createNew r db k old false
      else if r.deleteReply.returned then createNew r db k old true
      else { db, result := .failed "Failed to delete old marketplace offer", deleteSent := true }

/-! ### The properties -/

/-- The listing says that its offer is on the marketplace. -/
def claimsLive : ListingStatus → Bool
  | .listed => true
  | .paused => true
  | .closed => false
  | .deleted => false

/-- The reply to the delete confirms that the old offer is gone. -/
def RelistRun.confirmsGone (r : RelistRun) : Bool :=
  r.extracted.any (addressesOffer r.marketplace) && r.deleteReply.confirms

/-- `oldLive`: the listing's offer was on the marketplace before the run; `otherLive`: so was
another offer of the same credentials. -/
structure RelistSafe (r : RelistRun) (k : Nat) (old : Listing) (oldLive otherLive : Bool)
    (o : RelistOutcome) : Prop where
  confirmed : o.createSent = true →
    if o.deleteSent then r.confirmsGone = true else old.status = .deleted ∧ oldLive = false
  single : o.createSent = true → r.created = true →
    (oldLive && !(o.deleteSent && r.removed)) = false ∧ otherLive = false
  stopped : o.deleteSent = true → r.confirmsGone = true → (∀ new, o.result ≠ .relisted new) →
    ∀ row, o.db.listings.get? k = some row → claimsLive row.status = false

/-- A DELETED listing has no live offer; the delete of another one raises, or is confirmed, and
then the database follows; and where the create lands no other offer has the credentials. -/
def RelistFits (r : RelistRun) (old : Listing) (oldLive otherLive : Bool) : Prop :=
  r.unprepared = none → ∀ payload, buildPayload r = .ok payload →
    if old.status = .deleted then oldLive = false ∧ (r.created = true → otherLive = false)
    else r.deleteReply.returned = true →
      r.confirmsGone = true ∧ (r.created = true → otherLive = false) ∧
        (r.commits = true ∨ claimsLive old.status = false)

/-! ### What a run does -/

variable {r : RelistRun} {db : RelistDb} {k : Nat} {old : Listing} {oldLive otherLive : Bool}

theorem get?_markDeleted (hk : db.listings.get? k = some old) (now : Nat) :
    (markDeleted db k old now).listings.get? k =
      some { old with status := .deleted, removedAt := some now } :=
  Table.get?_set_self hk

@[simp] theorem createNew_sent (r : RelistRun) (db : RelistDb) (k : Nat) (old : Listing)
    (deleteSent : Bool) :
    (createNew r db k old deleteSent).createSent = true ∧
      (createNew r db k old deleteSent).deleteSent = deleteSent := by
  rw [createNew]
  split
  · split <;> exact ⟨rfl, rfl⟩
  · split <;> exact ⟨rfl, rfl⟩

/-- **After the delete**: the listing is DELETED, unless it was replaced, when the last
transaction commits, and as it was when it does not. -/
theorem createNew_cases (hk : db.listings.get? k = some old) (deleteSent : Bool) :
    (∃ new, r.commits = true ∧ (createNew r db k old deleteSent).result = .relisted new) ∨
      (∃ error row, r.commits = true ∧
        (createNew r db k old deleteSent).result = .failed error ∧
        (createNew r db k old deleteSent).db.listings.get? k = some row ∧
        row.status = .deleted) ∨
      r.commits = false ∧ (createNew r db k old deleteSent).result = .raised ∧
        (createNew r db k old deleteSent).db = db := by
  rw [createNew]
  split
  · next text _ =>
    split
    · next hcommits =>
      exact Or.inr (Or.inl ⟨text, _, hcommits, rfl, get?_markDeleted hk r.now, rfl⟩)
    · next hcommits =>
      exact Or.inr (Or.inr ⟨Bool.not_eq_true _ ▸ hcommits, rfl, rfl⟩)
  · split
    · next hcommits => exact Or.inl ⟨_, hcommits, rfl⟩
    · next hcommits =>
      exact Or.inr (Or.inr ⟨Bool.not_eq_true _ ▸ hcommits, rfl, rfl⟩)

/-- A run that sends nothing is safe. -/
theorem relistSafe_of_unsent {o : RelistOutcome} (hdelete : o.deleteSent = false)
    (hcreate : o.createSent = false) : RelistSafe r k old oldLive otherLive o := by
  constructor
  · intro hsent
    rw [hcreate] at hsent
    cases hsent
  · intro hsent
    rw [hcreate] at hsent
    cases hsent
  · intro hsent
    rw [hdelete] at hsent
    cases hsent

/-- A DELETED listing is created anew without a delete. -/
theorem relistSafe_deleted (hdeleted : old.status = .deleted) :
    RelistSafe r k old oldLive otherLive (createNew r db k old false) ↔
      oldLive = false ∧ (r.created = true → otherLive = false) := by
  obtain ⟨hcreate, hdelete⟩ := createNew_sent r db k old false
  constructor
  · intro h
    have hgone := h.confirmed hcreate
    rw [hdelete] at hgone
    exact ⟨hgone.2, fun hcreated => (h.single hcreate hcreated).2⟩
  · rintro ⟨hgone, hother⟩
    constructor
    · intro _
      rw [hdelete]
      exact ⟨hdeleted, hgone⟩
    · intro _ hcreated
      rw [hgone]
      exact ⟨rfl, hother hcreated⟩
    · intro hsent
      rw [hdelete] at hsent
      cases hsent

/-- A delete that returned is followed by the create, whatever the answer. -/
theorem relistSafe_answered (hk : db.listings.get? k = some old) :
    RelistSafe r k old oldLive otherLive (createNew r db k old true) ↔
      r.confirmsGone = true ∧ (r.created = true → otherLive = false) ∧
        (r.commits = true ∨ claimsLive old.status = false) := by
  obtain ⟨hcreate, hdelete⟩ := createNew_sent r db k old true
  constructor
  · intro h
    have hgone := h.confirmed hcreate
    rw [hdelete] at hgone
    refine ⟨hgone, fun hcreated => (h.single hcreate hcreated).2, ?_⟩
    rcases createNew_cases (r := r) hk true with ⟨new, hcommits, -⟩ | ⟨error, row, hcommits, -⟩ |
      ⟨-, hraised, hdb⟩
    · exact Or.inl hcommits
    · exact Or.inl hcommits
    · right
      apply h.stopped hdelete hgone
      · intro new hrelisted
        rw [hraised] at hrelisted
        cases hrelisted
      · rw [hdb]
        exact hk
  · rintro ⟨hgone, hother, hkept⟩
    constructor
    · intro _
      rw [hdelete]
      exact hgone
    · intro _ hcreated
      refine ⟨?_, hother hcreated⟩
      rw [hdelete, r.truthful hgone]
      simp
    · intro _ _ hstopped row hrow
      rcases createNew_cases (r := r) hk true with ⟨new, -, hrelisted⟩ |
        ⟨error, row', -, -, hrow', hdeleted⟩ | ⟨hcommits, -, hdb⟩
      · exact absurd hrelisted (hstopped new)
      · rw [hrow'] at hrow
        cases hrow
        rw [hdeleted]
        rfl
      · rw [hdb, hk] at hrow
        cases hrow
        rw [hcommits] at hkept
        exact hkept.resolve_left nofun

/-- A delete that raised ends the run. -/
theorem relistSafe_raised (hreturned : r.deleteReply.returned = false) {text : String} :
    RelistSafe r k old oldLive otherLive
      { db, result := .failed text, deleteSent := true } := by
  constructor
  · exact nofun
  · exact nofun
  · intro _ hgone
    rw [RelistRun.confirmsGone, Bool.and_eq_true] at hgone
    rcases hreply : r.deleteReply with message | result
    · rw [hreply] at hgone
      cases hgone.2
    · rw [hreply] at hreturned
      cases hreturned

/-- **Relisting.**  For every reply of the marketplace at every step, a run of `relist_listing`
creates only after a confirmed delete, beside no live offer of the same credentials, and leaves
no listing that claims an offer it has deleted, exactly when it meets `RelistFits`. -/
theorem relist_safe_iff (r : RelistRun) (oldLive otherLive : Bool)
    (hk : db.listings.get? k = some old) :
    RelistSafe r k old oldLive otherLive (relistListing r db k old) ↔
      RelistFits r old oldLive otherLive := by
  rw [relistListing, RelistFits]
  rcases r.unprepared with - | exception
  · rcases buildPayload r with text | payload
    · exact iff_of_true (relistSafe_of_unsent rfl rfl) fun _ _ h => nomatch h
    · simp only [forall_const, Except.ok.injEq, forall_eq']
      split
      · next hdeleted => exact relistSafe_deleted hdeleted
      · split
        · next hreturned =>
          rw [relistSafe_answered hk]
          exact (imp_iff_right hreturned).symm
        · next hreturned =>
          refine iff_of_true (relistSafe_raised (Bool.not_eq_true _ ▸ hreturned)) ?_
          exact fun hyes => absurd hyes hreturned
  · exact iff_of_true (relistSafe_of_unsent rfl rfl) fun h => nomatch h

/-- A listing of one account on Eldorado. -/
def oldOffer : Listing := { integrationAccount := 1, storeListingId := "old" }

def oneListing : RelistDb := { listings := Table.empty.create oldOffer }

/-- Its relist, with this reply to the delete. -/
def relistOnce (deleteReply : DeleteReply) (removed commits : Bool)
    (truthful : deleteReply.confirms = true → removed = true) : RelistRun where
  marketplace := .eldorado
  extracted := some { accountSecretDetails := .entries ["login:password"] }
  deleteReply := deleteReply
  removed := removed
  createReply := .answered (.success (.object none (some "new") "EldoradoOfferSearchItem"))
  created := true
  commits := commits
  truthful := truthful

/-- The marketplace confirms the delete. -/
def confirmedRelist : RelistRun :=
  relistOnce (.answered (.success {})) true true fun _ => rfl

theorem relist_safe_confirmed : RelistSafe confirmedRelist 0 oldOffer true false
    (relistListing confirmedRelist oneListing 0 oldOffer) := by
  apply (relist_safe_iff confirmedRelist true false rfl).mpr
  intro _ payload _
  rw [if_neg (by decide)]
  exact fun _ => ⟨rfl, fun _ => rfl, Or.inl rfl⟩

/-- The marketplace answers the delete with an error, and the offer stays. -/
def refusedRelist : RelistRun :=
  relistOnce (.answered (.failure { category := .serverError, message := "HTTP 503" })) false true
    nofun

/-- The delete is confirmed, and the transaction behind the create fails. -/
def unsavedRelist : RelistRun :=
  relistOnce (.answered (.success {})) true false fun _ => rfl

/-- A delete that was refused is followed by the create, and a failure behind the delete leaves
the listing as LISTED. -/
theorem relist_duplicates :
    ¬ RelistSafe refusedRelist 0 oldOffer true false
        (relistListing refusedRelist oneListing 0 oldOffer) ∧
      ¬ RelistSafe unsavedRelist 0 oldOffer true false
        (relistListing unsavedRelist oneListing 0 oldOffer) := by
  constructor
  · intro h
    have hgone := (h.single rfl rfl).1
    cases hgone
  · intro h
    have hclaims := h.stopped rfl rfl nofun oldOffer rfl
    cases hclaims

end Sda.Relist
