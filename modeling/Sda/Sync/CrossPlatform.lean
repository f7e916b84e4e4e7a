/-
Sda/Sync/CrossPlatform.lean

The removal of one sold account from an Eldorado offer with several
(sync/services/cross_platform.py: `_reconcile_eldorado`).

The offer is created again without the sold credential, from the payload stored by the
last sync, and the old one is deleted after that.  The parser of credential texts is a
parameter, of which only the login is used; the replies of the marketplace, and what the
calls came to there, are a run's.

* `eldorado_reconciled` — what a run posts, in which order, and what is live after it,
  when the stored payload is current and one of its credentials is the sold one;
* `reconciliation_fails` — an old offer that cannot be deleted, a listing without a
  stored payload, and a stored payload that is out of date.
-/
import Sda.Posting.Relist

namespace Sda.CrossPlatform

open Relist

/-! ### Credentials -/

/-- An item of `_credential_entries`. -/
structure CredentialEntry where
  id : String
  secretDetails : String
  deriving DecidableEq, Repr

/-- The credentials of an offer, as texts. -/
def secretsOf (entries : List CredentialEntry) : List String :=
  entries.map CredentialEntry.secretDetails

section
variable (parse : String → String)

/-- The login of an entry is the sold one. -/
def matchesLogin (soldLogin : String) (entry : CredentialEntry) : Bool :=
  if entry.secretDetails = "" then false
  else
    parse entry.secretDetails != "" &&
      stripText (lowerText (parse entry.secretDetails)) == stripText (lowerText soldLogin)

/-- **`_find_eldorado_sold_credential_ids`** -/
def findEldoradoSoldCredentialIds (entries : List CredentialEntry) (soldLogin : String) :
    List String :=
  (entries.filter (matchesLogin parse soldLogin)).map CredentialEntry.id

end

/-- `accountSecretDetails` of **`EldoradoMapper.build_from_raw`**. -/
def buildFromRaw (entries : List CredentialEntry) (excludeCredentialIds : List String) :
    List String :=
  (entries.filter fun e => !excludeCredentialIds.contains e.id && e.secretDetails != "").map
    CredentialEntry.secretDetails

/-! ### A run -/

/-- How `client.create_offer` ends; the data is the new offer's id. -/
inductive CreateAnswer
  | raised (message : String)
  | answered (result : ApiResult (Option String))
  deriving DecidableEq, Repr

def CreateAnswer.ok : CreateAnswer → Bool
  | .raised _ => false
  | .answered result => result.ok

/-- What one call of `_reconcile_eldorado` is given and meets. -/
structure EldoradoRun where
  now : Nat := 0
  slug : String := ""
  soldLogin : String
  /-- The linked products but the sold one. -/
  remaining : List Nat
  /-- `_credential_entries` of the listing's `RawPayload`. -/
  snapshot : Option (List CredentialEntry)
  createReply : CreateAnswer
  /-- The create put an offer on the marketplace. -/
  created : Bool
  deleteReply : DeleteReply
  /-- The delete took the old offer off the marketplace. -/
  removed : Bool
  /-- The last transaction commits. -/
  commits : Bool := true
  createTruthful : createReply.ok = true → created = true
  deleteTruthful : deleteReply.confirms = true → removed = true

/-- How the call ends. -/
inductive ReconcileResult
  | done
  | skipped
  | raised (message : String)
  deriving DecidableEq, Repr

/-- The caller counts the listing as reconciled. -/
def ReconcileResult.returned : ReconcileResult → Bool
  | .done => true
  | .skipped => true
  | .raised _ => false

/-- What a run has done; `posted` has the credentials of the create that was sent. -/
structure EldoradoOutcome where
  db : RelistDb
  result : ReconcileResult
  posted : Option (List String) := none
  deleteSent : Bool := false

/-- **`_replace_listing_in_db`** -/
def replaceListingInDb (db : RelistDb) (k : Nat) (old : Relist.Listing) (newOfferId : String)
    (remaining : List Nat) (now : Nat) : RelistDb :=
  let links := db.links.deleteWhere fun _ l => l.listing == k
  let db := markDeleted db k old now
  let new := db.listings.nextKey
  { db with
    listings := db.listings.create
      { integrationAccount := old.integrationAccount, game := old.game
        storeListingId := newOfferId, productCategory := old.productCategory
        variant := old.variant, title := old.title, price := old.price, currency := old.currency
        listedAt := some now, isInstant := old.isInstant }
    links := remaining.foldl (fun links p => links.create ⟨new, p⟩) links }

/-- **`_remove_single_offer`** -/
def removeSingleOffer (r : EldoradoRun) (db : RelistDb) (k : Nat) (old : Relist.Listing) :
    EldoradoOutcome :=
  match r.deleteReply with
  | .raised message => { db, result := .raised message, deleteSent := true }
  | .answered (.failure error _) =>
    { db
      result := .raised ("Failed to delete offer " ++ old.storeListingId ++ " from eldorado:" ++
        r.slug ++ ": " ++ error.message)
      deleteSent := true }
  | .answered (.success _ _) =>
    if r.commits then
      { db := markDeleted db k old r.now, result := .done, deleteSent := true }
    else { db, result := .raised "", deleteSent := true }

/-- The steps of `_reconcile_eldorado` with a payload: create, delete, database. -/
def recreateOffer (r : EldoradoRun) (db : RelistDb) (k : Nat) (old : Relist.Listing)
    (secrets : List String) : EldoradoOutcome :=
  match r.createReply with
  | .raised message => { db, result := .raised message, posted := some secrets }
  | .answered (.failure error _) =>
    { db
      result := .raised ("Failed to create replacement offer for " ++ old.storeListingId ++
        ": " ++ error.text ++ ". Old offer left intact.")
      posted := some secrets }
  | .answered (.success newOfferId _) =>
    -- the reply to the delete is not looked at, and an exception of it is logged
    if r.commits then
      { db := replaceListingInDb db k old (newOfferId.getD "unknown") r.remaining r.now
        result := .done, posted := some secrets, deleteSent := true }
    else { db, result := .raised "", posted := some secrets, deleteSent := true }

/-- **`_reconcile_eldorado`** -/
def reconcileEldorado (parse : String → String) (r : EldoradoRun) (db : RelistDb) (k : Nat)
    (old : Relist.Listing) : EldoradoOutcome :=
  match r.snapshot with
  | none => { db, result := .skipped }
  | some entries =>
    let excludeIds := findEldoradoSoldCredentialIds parse entries r.soldLogin
    let secrets := buildFromRaw entries excludeIds
    if secrets = [] then removeSingleOffer r db k old else recreateOffer r db k old secrets

/-! ### The properties -/

/-- The delete was answered, and not with an error. -/
def deleteOk : DeleteReply → Bool
  | .raised _ => false
  | .answered result => result.ok

/-- The old offer is gone. -/
def oldGone (r : EldoradoRun) (o : EldoradoOutcome) : Bool := o.deleteSent && r.removed

/-- The credentials that are live after a run, of those that were live on the old offer. -/
def liveAfter (r : EldoradoRun) (live : List String) (o : EldoradoOutcome) : List String :=
  (if oldGone r o then [] else live) ++ if r.created then o.posted.getD [] else []

/-- A run that is to leave `kept` of the credentials `live`. -/
structure Reconciled (r : EldoradoRun) (kept live : List String) (db : RelistDb)
    (o : EldoradoOutcome) : Prop where
  /-- All others are posted, and the sold one never is. -/
  posted : o.posted = if kept = [] then none else some kept
  /-- The old offer is touched after a successful create only. -/
  createdFirst : o.deleteSent = true → kept = [] ∨ r.createReply.ok = true
  failedCreate : kept ≠ [] → r.createReply.ok = false →
    o.result.returned = false ∧ oldGone r o = false ∧ o.db = db
  success : o.result.returned = true → r.deleteReply.confirms = true →
    oldGone r o = true ∧ liveAfter r live o = kept
  /-- An old offer that cannot be deleted stays beside the new one. -/
  undeleted : kept ≠ [] → r.createReply.ok = true → r.deleteReply.returned = false →
    r.commits = true → o.result = .done ∧ (r.removed = false → liveAfter r live o = live ++ kept)
  /-- A whole offer that cannot be deleted is reported. -/
  whole : kept = [] → deleteOk r.deleteReply = false → o.result.returned = false ∧ o.db = db

/-- What was claimed of every run, whatever was live. -/
structure AsClaimed (parse : String → String) (r : EldoradoRun) (live : List CredentialEntry)
    (o : EldoradoOutcome) : Prop where
  success : o.result.returned = true → oldGone r o = true ∧
    liveAfter r (secretsOf live) o =
      secretsOf (live.filter fun e => !matchesLogin parse r.soldLogin e)
  unidentified : (∀ e ∈ live, matchesLogin parse r.soldLogin e = false) → o.posted = none
  undeleted : r.deleteReply.confirms = false → o.posted = none

/-! ### What is posted -/

variable {parse : String → String} {r : EldoradoRun} {db : RelistDb} {k : Nat}
variable {old : Relist.Listing}
  {before after : List CredentialEntry} {sold : CredentialEntry} {soldLogin : String}

/-- One entry is the sold one: its id is excluded, and no other. -/
theorem findEldoradoSoldCredentialIds_single
    (hsold : matchesLogin parse soldLogin sold = true)
    (hothers : ∀ e ∈ before ++ after, matchesLogin parse soldLogin e = false) :
    findEldoradoSoldCredentialIds parse (before ++ sold :: after) soldLogin = [sold.id] := by
  have hnone : ∀ l : List CredentialEntry, (∀ e ∈ l, matchesLogin parse soldLogin e = false) →
      l.filter (matchesLogin parse soldLogin) = [] := by
    intro l hl
    apply List.filter_eq_nil_iff.mpr
    intro e he
    simp [hl e he]
  have hbefore := hnone before fun e he => hothers e (List.mem_append_left _ he)
  have hafter := hnone after fun e he => hothers e (List.mem_append_right _ he)
  simp [findEldoradoSoldCredentialIds, List.filter_append, hbefore, hafter, hsold]

/-- The entries but the one whose id is excluded. -/
theorem buildFromRaw_single
    (hids : ((before ++ sold :: after).map CredentialEntry.id).Nodup)
    (hsecrets : ∀ e ∈ before ++ after, e.secretDetails ≠ "") :
    buildFromRaw (before ++ sold :: after) [sold.id] = secretsOf (before ++ after) := by
  have hne : ∀ e ∈ before ++ after, e.id ≠ sold.id := by
    intro e he heq
    rw [List.map_append, List.map_cons, List.nodup_middle] at hids
    have hout := (List.nodup_cons.mp hids).1
    rw [← List.map_append, ← heq] at hout
    exact hout (List.mem_map_of_mem he)
  have hall : ∀ l : List CredentialEntry, (∀ e ∈ l, e.id ≠ sold.id) →
      (∀ e ∈ l, e.secretDetails ≠ "") →
      (l.filter fun e => !([sold.id].contains e.id) && e.secretDetails != "") = l := by
    intro l hl hs
    apply List.filter_eq_self.mpr
    intro e he
    simp [hl e he, hs e he]
  have hbefore := hall before (fun e he => hne e (List.mem_append_left _ he))
    fun e he => hsecrets e (List.mem_append_left _ he)
  have hafter := hall after (fun e he => hne e (List.mem_append_right _ he))
    fun e he => hsecrets e (List.mem_append_right _ he)
  rw [buildFromRaw, List.filter_append, List.filter_cons, hbefore, hafter, secretsOf]
  simp

/-! ### What a run does -/

/-- The whole offer is removed: nothing is posted, and a failure is raised. -/
theorem reconciled_whole (live : List String) :
    Reconciled r [] live db (removeSingleOffer r db k old) := by
  have hshape : (removeSingleOffer r db k old).posted = none ∧
      (removeSingleOffer r db k old).deleteSent = true := by
    rw [removeSingleOffer]
    split
    · exact ⟨rfl, rfl⟩
    · exact ⟨rfl, rfl⟩
    · split <;> exact ⟨rfl, rfl⟩
  obtain ⟨hposted, hsent⟩ := hshape
  constructor
  · exact hposted
  · exact fun _ => Or.inl rfl
  · exact fun hne => absurd rfl hne
  · intro _ hconfirms
    have hgone : oldGone r (removeSingleOffer r db k old) = true := by
      rw [oldGone, hsent, r.deleteTruthful hconfirms]
      rfl
    refine ⟨hgone, ?_⟩
    rw [liveAfter, hgone, hposted]
    simp
  · exact fun hne => absurd rfl hne
  · intro _ hfails
    rw [removeSingleOffer]
    split
    · exact ⟨rfl, rfl⟩
    · exact ⟨rfl, rfl⟩
    · next hreply =>
      rw [hreply] at hfails
      cases hfails

/-- The offer is created without the sold credential, then deleted. -/
theorem reconciled_recreated {kept : List String} (hkept : kept ≠ []) (live : List String) :
    Reconciled r kept live db (recreateOffer r db k old kept) := by
  have hposted : (recreateOffer r db k old kept).posted = some kept := by
    rw [recreateOffer]
    split
    · rfl
    · rfl
    · split <;> rfl
  have hsent : (recreateOffer r db k old kept).deleteSent = r.createReply.ok := by
    rw [recreateOffer]
    split
    · next hreply =>
      rw [hreply]
      rfl
    · next hreply =>
      rw [hreply]
      rfl
    · next hreply =>
      rw [hreply]
      split <;> rfl
  have hfailed : r.createReply.ok = false →
      (recreateOffer r db k old kept).result.returned = false ∧
        (recreateOffer r db k old kept).db = db := by
    intro hfails
    rw [recreateOffer]
    split
    · exact ⟨rfl, rfl⟩
    · exact ⟨rfl, rfl⟩
    · next hreply =>
      rw [hreply] at hfails
      cases hfails
  constructor
  · rw [hposted, if_neg hkept]
  · intro hdelete
    rw [hsent] at hdelete
    exact Or.inr hdelete
  · intro _ hfails
    refine ⟨(hfailed hfails).1, ?_, (hfailed hfails).2⟩
    rw [oldGone, hsent, hfails]
    rfl
  · intro hreturned hconfirms
    -- a run that returns has created the new offer
    have hok : r.createReply.ok = true := by
      by_contra hfails
      rw [(hfailed (Bool.not_eq_true _ ▸ hfails)).1] at hreturned
      cases hreturned
    have hgone : oldGone r (recreateOffer r db k old kept) = true := by
      rw [oldGone, hsent, hok, r.deleteTruthful hconfirms]
      rfl
    refine ⟨hgone, ?_⟩
    rw [liveAfter, hgone, hposted, r.createTruthful hok]
    simp
  · intro _ hok _ hcommits
    constructor
    · rw [recreateOffer]
      split
      · next hreply =>
        rw [hreply] at hok
        cases hok
      · next hreply =>
        rw [hreply] at hok
        cases hok
      · rw [if_pos hcommits]
    · intro hstays
      rw [liveAfter, oldGone, hstays, hposted, r.createTruthful hok]
      simp
  · exact fun hnil => absurd hnil hkept

/-- **Reconciliation of an Eldorado offer.**  A listing without a stored payload is left alone.
When the stored payload has the credentials that are live, under distinct ids, and exactly one
of them has the sold login, then a run posts all others and never the sold one, touches the old
offer after a successful create only, and, if it returns and the delete was confirmed, leaves
exactly the others live. -/
theorem eldorado_reconciled (parse : String → String) (r : EldoradoRun) (db : RelistDb) (k : Nat)
    (old : Relist.Listing) :
    (r.snapshot = none →
      reconcileEldorado parse r db k old = { db, result := .skipped }) ∧
      ∀ before sold after, r.snapshot = some (before ++ sold :: after) →
        ((before ++ sold :: after).map CredentialEntry.id).Nodup →
        (∀ e ∈ before ++ after, e.secretDetails ≠ "") →
        matchesLogin parse r.soldLogin sold = true →
        (∀ e ∈ before ++ after, matchesLogin parse r.soldLogin e = false) →
        Reconciled r (secretsOf (before ++ after)) (secretsOf (before ++ sold :: after)) db
          (reconcileEldorado parse r db k old) := by
  constructor
  · intro hnone
    rw [reconcileEldorado, hnone]
  · intro before sold after hsnapshot hids hsecrets hsold hothers
    rw [reconcileEldorado, hsnapshot]
    dsimp only
    rw [findEldoradoSoldCredentialIds_single hsold hothers, buildFromRaw_single hids hsecrets]
    split
    · next hnil =>
      rw [hnil]
      exact reconciled_whole _
    · next hkept => exact reconciled_recreated hkept _

/-- The login of "login:password". -/
def colonLogin (text : String) : String :=
  String.ofList (text.toList.takeWhile fun c => c != ':')

def ann : CredentialEntry := ⟨"1", "ann:a"⟩
def bob : CredentialEntry := ⟨"2", "bob:b"⟩
def cat : CredentialEntry := ⟨"3", "cat:c"⟩

/-- The login of ann is sold; the create succeeds. -/
def annSold (snapshot : Option (List CredentialEntry)) (deleteReply : DeleteReply) (removed : Bool)
    (deleteTruthful : deleteReply.confirms = true → removed = true) : EldoradoRun where
  soldLogin := "Ann"
  remaining := [2]
  snapshot := snapshot
  createReply := .answered (.success (some "new"))
  created := true
  deleteReply := deleteReply
  removed := removed
  createTruthful := fun _ => rfl
  deleteTruthful := deleteTruthful

/-- The delete is confirmed. -/
def annRemoved : EldoradoRun :=
  annSold (some [ann, bob]) (.answered (.success {})) true fun _ => rfl

theorem eldorado_reconciled_ann :
    Reconciled annRemoved (secretsOf [bob]) (secretsOf [ann, bob]) {}
      (reconcileEldorado colonLogin annRemoved {} 0 oldOffer) :=
  (eldorado_reconciled colonLogin annRemoved {} 0 oldOffer).2 [] ann [bob] rfl (by decide)
    (by decide) (by decide +kernel) (by decide +kernel)

/-- The delete times out. -/
def annUndeleted : EldoradoRun :=
  annSold (some [ann, bob]) (.raised "timeout") false nofun

/-- The listing has no stored payload. -/
def annUnstored : EldoradoRun :=
  annSold none (.answered (.success {})) true fun _ => rfl

/-- An old offer that cannot be deleted is left beside its replacement; a listing without a
stored payload is skipped; and a credential added after the last sync is lost. -/
theorem reconciliation_fails :
    ¬ AsClaimed colonLogin annUndeleted [ann, bob]
        (reconcileEldorado colonLogin annUndeleted {} 0 oldOffer) ∧
      ¬ AsClaimed colonLogin annUnstored [ann, bob]
        (reconcileEldorado colonLogin annUnstored {} 0 oldOffer) ∧
      ¬ AsClaimed colonLogin annRemoved [ann, bob, cat]
        (reconcileEldorado colonLogin annRemoved {} 0 oldOffer) := by
  refine ⟨fun h => ?_, fun h => ?_, fun h => ?_⟩
  · exact absurd (h.undeleted rfl) (by decide +kernel)
  · cases (h.success rfl).1
  · exact absurd (h.success (by decide +kernel)).2 (by decide +kernel)

end Sda.CrossPlatform
