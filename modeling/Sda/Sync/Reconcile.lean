/-
Sda/Sync/Reconcile.lean

What a completed listing backfill does with the rows it did not see
(`_reconcile_stale`, sync/services/base.py): the raw payloads last seen before
the run began are removed, and the listings they stand for marked DELETED.

The run that completes a backfill need not be the run that began it.  It starts
at the cursor the runs before it left, and takes its own start for the start of
the backfill, so what the earlier runs were returned is stale to it.

The ids the backfill was returned are part of the state here.

Main result: `reconciliation_spares_iff`, which runs spare what the backfill was
returned.
-/
import Sda.Lib.Run
import Sda.Sync.Blocking
import Sda.Sync.Offers

namespace Sda.Sync

/-! ### `_reconcile_stale` -/

/-- The rows of the listing and inventory apps a listing service writes. -/
structure ListingRows where
  listings : Table Listing
  products : Table DropshipProduct := Table.empty

section ReconcileStale

variable {ι : Type}

/-- `stale_raw_qs`. -/
def staleRaw (run : SyncRun) (raws : String → Option (RawPayload ι)) (id : String) : Bool :=
  (raws id).any fun raw => decide (raw.lastSeenAt < run.createdAt)

/-- `stale_listings_qs`. -/
def staleListing (account : Nat) (stale : String → Bool) (r : Listing) : Bool :=
  r.integrationAccount == some account && stale r.storeListingId && r.status != .closed &&
    r.status != .deleted

/-- **`_reconcile_stale`**. -/
def reconcileStale (account : Nat) (run : SyncRun) (db : SyncDb ι ListingRows) :
    SyncRun × SyncDb ι ListingRows :=
  let stale := staleRaw run db.raws
  let selected := fun (_ : Nat) r => staleListing account stale r
  let productIds := (db.domain.listings.select selected).filterMap fun r => r.2.dropshipProduct
  let listings := db.domain.listings.updateWhere selected fun r =>
    { r with status := .deleted, removedAt := some db.now }
  ({ run with reconciledDeleted := db.domain.listings.count selected },
    { db with
      raws := fun id => if stale id then none else db.raws id
      domain :=
        { listings
          products := reconcileDropshipProducts listings db.domain.products db.now productIds } })

variable {account : Nat} {run : SyncRun} {db : SyncDb ι ListingRows} {id : String}

theorem staleRaw_iff {raws : String → Option (RawPayload ι)} :
    staleRaw run raws id = true ↔
      ∃ raw, raws id = some raw ∧ raw.lastSeenAt < run.createdAt := by
  simp [staleRaw, Option.any_eq_true]

variable (account) in
/-- A payload that is not stale keeps its row. -/
theorem reconcileStale_raws (h : staleRaw run db.raws id = false) :
    (reconcileStale account run db).2.raws id = db.raws id := by
  show (if staleRaw run db.raws id then none else db.raws id) = _
  rw [if_neg (by rw [h]; exact Bool.false_ne_true)]

theorem reconcileStale_raws_stale (h : staleRaw run db.raws id = true) :
    (reconcileStale account run db).2.raws id = none :=
  if_pos h

/-- So does its listing. -/
theorem reconcileStale_listing {k : Nat} {r : Listing}
    (hrow : db.domain.listings.get? k = some r)
    (h : staleRaw run db.raws r.storeListingId = false) :
    (reconcileStale account run db).2.domain.listings.get? k = some r := by
  show (db.domain.listings.updateWhere _ _).get? k = _
  rw [Table.get?_updateWhere, hrow, Option.map_some, if_neg]
  rw [staleListing, h, Bool.and_false, Bool.false_and, Bool.false_and]
  exact Bool.false_ne_true

end ReconcileStale

/-! ### What a run is returned -/

section Returned

variable {ι δ : Type} [DecidableEq ι]

/-- The items the requests of a run return, from call `n` on. -/
def returnedItems (svc : Service ι) (ses : Session ι δ) (start : SyncCheckpoint) :
    Nat → Nat → Loop ι δ → List ι
  | 0, _, _ => []
  | calls + 1, n, l =>
    let l := l.beforeFetch (ses.pause n)
    match ses.fetchPage n l.checkpoint with
    | (.error _, _) => []
    | (.ok (items, nextCursor), checkpoint) =>
      items ++
        if items.isEmpty then []
        else
          match readPage svc ses start n items nextCursor { l with checkpoint } with
          | .error _ => []
          | .ok (l', caughtUp) =>
            if l'.parseFailedAny || caughtUp || nextCursor == "" then []
            else if pageLimitReached svc l'.pagesFetched then []
            else returnedItems svc ses start calls (n + 1) l'

variable {svc : Service ι} {ses : Session ι δ} {start : SyncCheckpoint} {calls n t : Nat}
variable {l l' : Loop ι δ}

/-- **A backfill loop that does not fail** stores what it is returned. -/
theorem fetchPages_stores_returned {b : Bool} (hstart : start.mode = .backfill)
    (hskip : ∀ x, svc.shouldSkipItem x = false)
    (hprepare : ∀ n x, ses.prepareItem n x ≠ .skipItem) (ht : t ≤ l.now)
    (hout : fetchPages svc ses start calls n l = (.ok b, l')) :
    Stores svc t (returnedItems svc ses start calls n l) l.raws l'.raws := by
  induction calls generalizing n l with
  | zero => cases hout
  | succ calls ih =>
    have hnow : t ≤ (l.beforeFetch (ses.pause n)).now := ht.trans (Nat.le_add_right ..)
    unfold returnedItems
    dsimp only
    rw [show (l.beforeFetch (ses.pause n)).checkpoint = l.checkpoint from rfl]
    rcases hfetch : ses.fetchPage n l.checkpoint with ⟨exc | ⟨items, nextCursor⟩, cp⟩
    · rw [fetchPages_error start calls hfetch] at hout
      cases hout
    dsimp only
    by_cases hempty : items = []
    · rw [hempty] at hfetch ⊢
      rw [fetchPages_empty start calls hfetch] at hout
      have hraws := (finish_fields { l.beforeFetch (ses.pause n) with checkpoint := cp }
        nextCursor).1
      rw [hout] at hraws
      rw [show l'.raws = l.raws from hraws]
      exact Stores.refl ..
    rw [if_neg (by simpa using hempty)]
    rcases hpage : readPage svc ses start n items nextCursor
        { l.beforeFetch (ses.pause n) with checkpoint := cp } with e | ⟨l₁, caughtUp⟩
    · rw [fetchPages_rolledBack calls hfetch hempty hpage] at hout
      cases hout
    dsimp only
    rw [fetchPages_read _ calls hfetch hempty hpage] at hout
    obtain ⟨pg, hitems, -, hraws₁, -⟩ := readPage_fields hpage
    have hstores := ingestItems_stores hitems hnow fun x _ _ => hprepare n x
    rw [seen_backfill hstart, above_eq_self fun _ _ => rfl, kept_eq_self hskip, ← hraws₁]
      at hstores
    have hend : ∀ out : Loop ι δ, out.raws = l₁.raws → out.finish nextCursor = (.ok b, l') →
        Stores svc t (items ++ []) l.raws l'.raws := by
      intro out hraws hfinish
      have hfields := (finish_fields out nextCursor).1
      rw [hfinish, hraws] at hfields
      rw [List.append_nil, show l'.raws = l₁.raws from hfields]
      exact hstores
    by_cases hstop : (l₁.parseFailedAny || caughtUp || nextCursor == "") = true
    · rw [if_pos hstop] at hout ⊢
      exact hend l₁ rfl hout
    rw [if_neg hstop] at hout ⊢
    by_cases hlimit : pageLimitReached svc l₁.pagesFetched = true
    · rw [if_pos hlimit] at hout ⊢
      refine hend _ ?_ hout
      rfl
    · rw [if_neg hlimit] at hout ⊢
      have hnow₁ : t ≤ l₁.now := by
        rw [(readPage_fetched hpage).2]
        exact hnow
      exact hstores.append (ih hnow₁ hout)

end Returned

/-! ### The end of a run -/

section End

variable {ι δ : Type} [DecidableEq ι] {svc : Service ι} {ses : Session ι δ} {db : SyncDb ι δ}

/-- The run completes the backfill. -/
def CompletesBackfill (svc : Service ι) (ses : Session ι δ) (db : SyncDb ι δ) : Prop :=
  (db.checkpoint .backfill).status ≠ .completed ∧
    (fetchLoop svc ses (startLoop db .backfill)).1 = .ok true

omit [DecidableEq ι] in
theorem seedIncremental_domain (db : SyncDb ι δ) (backfill : SyncCheckpoint) :
    (seedIncremental db backfill).domain = db.domain := by
  unfold seedIncremental
  dsimp only
  split <;> rfl

/-- A run that does not complete the backfill reconciles nothing. -/
theorem runSync_open (h : ¬CompletesBackfill svc ses db)
    (reconcile reconcile' : SyncRun → SyncDb ι δ → SyncRun × SyncDb ι δ) :
    runSync svc ses reconcile .backfill db = runSync svc ses reconcile' .backfill db := by
  unfold runSync
  by_cases hbefore : (db.checkpoint .backfill).status = .completed
  · rw [if_pos ⟨rfl, hbefore⟩, if_pos ⟨rfl, hbefore⟩]
  rw [if_neg fun hc => hbefore hc.2, if_neg fun hc => hbefore hc.2]
  rcases hout : fetchLoop svc ses (startLoop db .backfill) with ⟨exc | exhausted, l⟩
  · rfl
  · dsimp only
    have hne : ¬exhausted = true := by
      intro heq
      refine h ⟨hbefore, ?_⟩
      rw [hout, heq]
    rw [if_neg fun hc => hne hc.2, if_neg fun hc => hne hc.2]

/-- **A run that completes the backfill** reconciles the rows of its loop. -/
theorem runSync_completing (h : CompletesBackfill svc ses db) :
    ∃ pre : SyncDb ι δ, ∃ l, fetchLoop svc ses (startLoop db .backfill) = (.ok true, l) ∧
      pre.raws = l.raws ∧ pre.domain = l.domain ∧
      (pre.checkpoint .backfill).mode = l.checkpoint.mode ∧
      ∀ reconcile, ∃ runs, runSync svc ses reconcile .backfill db
        = { (reconcile l.run pre).2 with runs } := by
  obtain ⟨hbefore, hloop⟩ := h
  rcases hout : fetchLoop svc ses (startLoop db .backfill) with ⟨result, l⟩
  rw [hout] at hloop
  have hresult : result = .ok true := hloop
  subst hresult
  let saved := (afterLoop db .backfill l).saveCheckpoint .backfill
    { l.checkpoint with status := .completed }
  obtain ⟨hraws, -, hcp⟩ := seedIncremental_rows saved { l.checkpoint with status := .completed }
  refine ⟨seedIncremental saved { l.checkpoint with status := .completed }, l, rfl, hraws,
    seedIncremental_domain .., ?_, fun reconcile => ?_⟩
  · rw [hcp]
    rfl
  · unfold runSync
    rw [if_neg fun hc => hbefore hc.2, hout]
    exact ⟨_, rfl⟩

end End

/-! ### The runs of a backfill -/

section Runs

variable {ι : Type} [DecidableEq ι]

/-- A listing service: its hooks skip nothing. -/
structure ListingService (ι : Type) extends Service ι where
  noSkip : ∀ x, shouldSkipItem x = false

/-- A run of the backfill, some time after the one before.  The page limit is an
argument of the run; the requests save no more than the transient keys. -/
structure ListingRun (ι : Type) where
  wait : Nat := 0
  maxPages : Option Nat := none
  session : Session ι ListingRows
  keepsMode : ∀ n cp, (session.fetchPage n cp).2.mode = cp.mode
  noSkipItem : ∀ n x, session.prepareItem n x ≠ .skipItem

/-- The rows of the account, and the ids the backfill was returned. -/
structure ListingBackfill (ι : Type) where
  db : SyncDb ι ListingRows
  returned : List String := []

/-- A backfill begins without a checkpoint. -/
def ListingBackfill.init (db : SyncDb ι ListingRows) : ListingBackfill ι where
  db := { db with checkpoints := Function.update db.checkpoints .backfill none }

variable (svc : ListingService ι) (account : Nat)

/-- The service of a run. -/
def ListingRun.service (e : ListingRun ι) : Service ι :=
  { svc.toService with maxPages := e.maxPages }

/-- The rows as the run finds them. -/
def ListingBackfill.found (s : ListingBackfill ι) (e : ListingRun ι) : SyncDb ι ListingRows :=
  { s.db with now := s.db.now + e.wait }

/-- The ids the run is returned. -/
def returnedBy (s : ListingBackfill ι) (e : ListingRun ι) : List String :=
  if (s.db.checkpoint .backfill).status = .completed ∨ e.maxPages = some 0 then []
  else
    (returnedItems (e.service svc) e.session (startLoop (s.found e) .backfill).checkpoint
      e.session.calls 0 (startLoop (s.found e) .backfill)).map (remoteKey svc.toService)

/-- A run, with what follows it. -/
def listingStep (s : ListingBackfill ι) (e : ListingRun ι) : ListingBackfill ι where
  db := runSync (e.service svc) e.session (reconcileStale account) .backfill (s.found e)
  returned := s.returned ++ returnedBy svc s e

/-- **The run spares what the backfill was returned**: of every id, it leaves the
payload and the listings that it would leave without `_reconcile_stale`. -/
def SparesReturned (s : ListingBackfill ι) (e : ListingRun ι) : Prop :=
  let kept := runSync (e.service svc) e.session noReconcile .backfill (s.found e)
  let left := listingStep svc account s e
  ∀ id ∈ left.returned, left.db.raws id = kept.raws id ∧
    ∀ k r, kept.domain.listings.get? k = some r → r.storeListingId = id →
      left.db.domain.listings.get? k = some r

/-- **The condition**: a run that completes the backfill is returned again every
id that earlier runs were returned, where its payload is older than the run. -/
def ReturnsAgain (s : ListingBackfill ι) (e : ListingRun ι) : Prop :=
  CompletesBackfill (e.service svc) e.session (s.found e) →
    ∀ id ∈ s.returned, ∀ raw, s.db.raws id = some raw → raw.lastSeenAt < s.db.now + e.wait →
      id ∈ returnedBy svc s e

variable {svc account} {s : ListingBackfill ι} {e : ListingRun ι}

/-- What a completing run stores. -/
theorem completing_stores (hmode : (s.db.checkpoint .backfill).mode = .backfill)
    {l : Loop ι ListingRows}
    (hout : fetchLoop (e.service svc) e.session (startLoop (s.found e) .backfill) = (.ok true, l))
    (hbefore : (s.db.checkpoint .backfill).status ≠ .completed) :
    l.run.createdAt = s.db.now + e.wait ∧ ∃ items : List ι,
      returnedBy svc s e = items.map (remoteKey svc.toService) ∧
        Stores svc.toService (s.db.now + e.wait) items s.db.raws l.raws := by
  unfold fetchLoop at hout
  by_cases hlimit : (e.service svc).maxPages = some 0
  · rw [if_pos hlimit] at hout
    cases hout
  rw [if_neg hlimit] at hout
  constructor
  · have hheader := fetchPages_header (e.service svc) e.session
      (startLoop (s.found e) .backfill).checkpoint e.session.calls 0
      (startLoop (s.found e) .backfill)
    rw [hout] at hheader
    exact congrArg Prod.snd hheader
  · refine ⟨_, if_neg ?_, ?_⟩
    · rintro (hc | hc)
      · exact hbefore hc
      · exact hlimit hc
    · have hstart : (startLoop (s.found e) .backfill).checkpoint.mode = .backfill := hmode
      have hskip : ∀ x, (e.service svc).shouldSkipItem x = false := svc.noSkip
      have hstores := fetchPages_stores_returned (t := s.db.now + e.wait) hstart hskip
        e.noSkipItem (Nat.le_refl _) hout
      exact ⟨hstores.other, hstores.stored, hstores.keeps⟩

/-- **One run**: it spares what the backfill was returned exactly when it meets
the condition. -/
theorem spares_iff (hmode : (s.db.checkpoint .backfill).mode = .backfill) :
    SparesReturned svc account s e ↔ ReturnsAgain svc s e := by
  by_cases hcompletes : CompletesBackfill (e.service svc) e.session (s.found e)
  case neg =>
    refine iff_of_true ?_ fun h => absurd h hcompletes
    intro id hid
    have hsame := runSync_open hcompletes (reconcileStale account) noReconcile
    exact ⟨congrArg (fun db => db.raws id) hsame, fun k r hrow _ =>
      (congrArg (fun db => db.domain.listings.get? k) hsame).trans hrow⟩
  obtain ⟨pre, l, hout, hraws, hdomain, -, hrun⟩ := runSync_completing hcompletes
  obtain ⟨runs, hreconciled⟩ := hrun (reconcileStale account)
  obtain ⟨runs', hkept⟩ := hrun noReconcile
  obtain ⟨hcreated, items, hreturned, hstores⟩ := completing_stores hmode hout hcompletes.1
  -- what is stale to the reconciliation
  have hstale : ∀ id, staleRaw l.run pre.raws id = true ↔
      ∃ raw, l.raws id = some raw ∧ raw.lastSeenAt < s.db.now + e.wait := by
    intro id
    rw [staleRaw_iff, hraws, hcreated]
  have hspares : SparesReturned svc account s e ↔
      ∀ id ∈ s.returned ++ returnedBy svc s e, staleRaw l.run pre.raws id = false := by
    unfold SparesReturned listingStep
    dsimp only
    rw [hreconciled, hkept]
    constructor
    · intro h id hid
      by_contra hne
      have hstale' := Bool.not_eq_false _ ▸ hne
      obtain ⟨raw, hraw, -⟩ := staleRaw_iff.mp hstale'
      have hgone := (h id hid).1
      rw [show (reconcileStale account l.run pre).2.raws id = none from
        reconcileStale_raws_stale hstale'] at hgone
      exact absurd (hgone.trans hraw) nofun
    · rintro h id hid
      refine ⟨reconcileStale_raws account (h id hid), fun k r hrow hkey => ?_⟩
      exact reconcileStale_listing hrow (hkey ▸ h id hid)
  rw [hspares]
  constructor
  · intro h _ id hid raw hraw hold
    by_contra hnot
    rw [hreturned, List.mem_map] at hnot
    have hsame := hstores.other id fun x hx heq => hnot ⟨x, hx, heq⟩
    have hstale' := (hstale id).mpr ⟨raw, hsame.trans hraw, hold⟩
    exact absurd (hstale'.symm.trans (h id (List.mem_append_left _ hid))) nofun
  · intro h id hid
    by_contra hne
    obtain ⟨raw, hraw, hold⟩ := (hstale id).mp (Bool.not_eq_false _ ▸ hne)
    -- the run was not returned the id
    have hnot : id ∉ returnedBy svc s e := by
      intro hmem
      rw [hreturned, List.mem_map] at hmem
      obtain ⟨x, hx, rfl⟩ := hmem
      obtain ⟨raw', hraw', hseen⟩ := hstores.stored x hx
      rw [hraw] at hraw'
      cases hraw'
      exact absurd hold (Nat.not_lt.mpr hseen)
    have hsame := hstores.other id fun x hx heq =>
      hnot (hreturned ▸ List.mem_map.mpr ⟨x, hx, heq⟩)
    have hid' := (List.mem_append.mp hid).resolve_right hnot
    exact hnot (h hcompletes id hid' raw (hsame ▸ hraw) hold)

/-- The checkpoint of a backfill stays one. -/
theorem listingStep_mode (hmode : (s.db.checkpoint .backfill).mode = .backfill) :
    ((listingStep svc account s e).db.checkpoint .backfill).mode = .backfill := by
  have hloop : (fetchLoop (e.service svc) e.session
      (startLoop (s.found e) .backfill)).2.checkpoint.mode = .backfill := by
    unfold fetchLoop
    split
    · exact hmode
    · exact (fetchPages_mode e.keepsMode ..).trans hmode
  by_cases hcompletes : CompletesBackfill (e.service svc) e.session (s.found e)
  · obtain ⟨pre, l, hout, -, -, hpre, hrun⟩ := runSync_completing hcompletes
    obtain ⟨runs, hreconciled⟩ := hrun (reconcileStale account)
    show ((runSync _ _ _ _ _).checkpoint _).mode = _
    rw [hreconciled]
    rw [hout] at hloop
    exact hpre.trans hloop
  · show ((runSync _ _ _ _ _).checkpoint _).mode = _
    by_cases hbefore : (s.db.checkpoint .backfill).status = .completed
    · rw [runSync, if_pos ⟨rfl, hbefore⟩]
      exact hmode
    · rw [runSync, if_neg fun hc => hbefore hc.2]
      rcases hout : fetchLoop (e.service svc) e.session (startLoop (s.found e) .backfill)
        with ⟨exc | exhausted, l⟩
      · rw [hout] at hloop
        exact hloop
      · have hne : ¬exhausted = true := fun heq => hcompletes ⟨hbefore, by rw [hout, heq]⟩
        rw [hout] at hloop
        dsimp only
        rw [if_neg fun hc => hne hc.2]
        exact hloop

/-- **Which runs spare what the backfill was returned.**  From any rows, a
sequence of runs of a backfill spares what it was returned, in every run,
exactly when the run that completes it is returned again what the earlier ones
were. -/
theorem reconciliation_spares_iff (svc : ListingService ι) (account : Nat)
    (db : SyncDb ι ListingRows) (es : List (ListingRun ι)) :
    Along (listingStep svc account) (SparesReturned svc account) (ListingBackfill.init db) es ↔
      Along (listingStep svc account) (ReturnsAgain svc) (ListingBackfill.init db) es := by
  have hinit : ((ListingBackfill.init db).db.checkpoint .backfill).mode = .backfill := by
    show ((Function.update db.checkpoints .backfill none .backfill).getD _).mode = _
    rw [Function.update_self]
    rfl
  exact along_iff_along
    (I := fun s : ListingBackfill ι => (s.db.checkpoint .backfill).mode = .backfill)
    (fun _ _ hmode _ => listingStep_mode hmode) (fun _ _ hmode => spares_iff hmode) hinit es

/-! ### GameBoost, in two runs -/

def gameboostListings : ListingService GameboostOffer where
  toService := gameboostOfferSync
  noSkip _ := rfl

/-- The requests to an API over a catalogue that answers them all. -/
def gameboostPage (cat : Catalogue GameboostOffer) :
    SyncCheckpoint → Except PyError (List GameboostOffer × String) × SyncCheckpoint :=
  gameboostOfferFetchPage fun status page _ =>
    serveOffers gameboostOfferPageSize gameboostFetchStatuses cat (fun _ _ => none) status page

/-- A run over a catalogue. -/
def gameboostRun (wait : Nat) (maxPages : Option Nat) (cat : Catalogue GameboostOffer) :
    ListingRun GameboostOffer where
  wait
  maxPages
  session :=
    { fetchPage := fun _ => gameboostPage cat
      parseAndApply := fun _ _ rows => (.ok .created, rows)
      calls := 10 }
  keepsMode _ _ := fetchOfferPage_mode ..
  noSkipItem _ _ := nofun

/-- Two pages of listed offers. -/
def listedCatalogue : Catalogue GameboostOffer where
  first := (List.range 51).map fun i => { id := natText i }
  second := []

/-- An account with the listing of the first offer. -/
def listedDb : SyncDb GameboostOffer ListingRows where
  now := 100
  domain := { listings := Table.empty.create { integrationAccount := some 1, storeListingId := "0" } }

set_option maxRecDepth 2000 in
theorem listedCatalogue_second {cp : SyncCheckpoint} (hmode : cp.mode = .backfill)
    (hcursor : cp.cursor = "2") (hstatus : cp.currentStatus = none) :
    gameboostPage listedCatalogue cp = (.ok ([{ id := "50" }], "1"), cp.toStatus "draft" 1) := by
  have hpage : cp.page = .ok 2 := by
    have hparse : "2".toNat? = some 2 := by
      simp [String.toNat?, String.Slice.toNat?, String.Slice.isNat]
    rw [SyncCheckpoint.page, hmode, hcursor]
    dsimp only
    rw [cursorPage, if_neg (by decide), hparse]
  have hserve : serveOffers gameboostOfferPageSize gameboostFetchStatuses listedCatalogue
      (fun _ _ => none) "listed" 2 = .page [{ id := "50" }] (some 2) (some 2) := by
    rfl
  unfold gameboostPage gameboostOfferFetchPage fetchOfferPage
  rw [hstatus]
  unfold fetchStatusPage
  rw [hpage]
  simp only [gameboostFetchStatuses, Option.getD_none, List.headD_cons] at hserve ⊢
  rw [hserve]
  rfl

theorem listedCatalogue_draft {cp : SyncCheckpoint} (hmode : cp.mode = .backfill)
    (hcursor : cp.cursor = "1") (hstatus : cp.currentStatus = some "draft") :
    gameboostPage listedCatalogue cp = (.ok ([], ""), cp) := by
  have hpage : cp.page = .ok 1 := by
    have hparse : "1".toNat? = some 1 := by
      simp [String.toNat?, String.Slice.toNat?, String.Slice.isNat]
    rw [SyncCheckpoint.page, hmode, hcursor]
    dsimp only
    rw [cursorPage, if_neg (by decide), hparse]
  unfold gameboostPage gameboostOfferFetchPage fetchOfferPage
  rw [hstatus]
  unfold fetchStatusPage
  rw [hpage]
  rfl

/-- The backfill after a run that stopped at its page limit. -/
def resumed : ListingBackfill GameboostOffer :=
  listingStep gameboostListings 1 (ListingBackfill.init listedDb)
    (gameboostRun 0 (some 1) listedCatalogue)

set_option maxRecDepth 4000 in
theorem resumed_checkpoint : resumed.db.checkpoint .backfill
    = { mode := .backfill, cursor := "2", lastSeenRemoteId := "49", lastRunAt := some 100 } := by
  decide

/-- The run that resumes the backfill, a minute later. -/
def secondRun : ListingRun GameboostOffer :=
  gameboostRun 60 none listedCatalogue

/-- It reads the second page, and completes the backfill. -/
theorem secondRun_pages {start : SyncCheckpoint} {l : Loop GameboostOffer ListingRows}
    (hstart : start.mode = .backfill) (hmode : l.checkpoint.mode = .backfill)
    (hcursor : l.checkpoint.cursor = "2") (hstatus : l.checkpoint.currentStatus = none)
    (hfailed : l.parseFailedAny = false) :
    (fetchPages (secondRun.service gameboostListings) secondRun.session start 10 0 l).1
        = .ok true ∧
      returnedItems (secondRun.service gameboostListings) secondRun.session start 10 0 l
        = [{ id := "50" }] := by
  have hfetch : secondRun.session.fetchPage 0 l.checkpoint
      = (.ok ([{ id := "50" }], "1"), l.checkpoint.toStatus "draft" 1) :=
    listedCatalogue_second hmode hcursor hstatus
  let svc := secondRun.service gameboostListings
  let ses := secondRun.session
  have habove : above (seen svc start (l.beforeFetch (ses.pause 0)).stopTimestamp)
      [{ id := "50" }] = [{ id := "50" }] := by
    rw [seen_backfill hstart]
    rfl
  -- the second page is read to its end, and does not block
  obtain ⟨pg, hitems⟩ := ingestItems_ok svc ses
    (seen svc start (l.beforeFetch (ses.pause 0)).stopTimestamp)
    (l.beforeFetch (ses.pause 0)).now 0 [{ id := "50" }]
    (fun x hx => by
      rw [habove, List.mem_singleton] at hx
      rw [hx]
      decide)
    (fun x => .inl ⟨x, rfl⟩)
    { raws := l.raws, domain := l.domain, run := l.run, first := l.first }
  have hblocked : pg.pageParseFailed = false := by
    refine ingestItems_passes (show 1 < 5 by decide) hitems ?_ fun x _ => ?_
    · rw [habove]
      exact List.nodup_singleton _
    · exact .inr fun payload _ => .inr (.inl fun _ => rfl)
  have hlast : pg.last ≠ none := by
    intro hnone
    have hnil := ((ingestItems_flow hitems).2.2.1 hnone).2
    rw [habove] at hnil
    cases hnil
  have hcaught : pg.caughtUp = false := by
    rw [(ingestItems_flow hitems).1, seen_backfill hstart]
    rfl
  obtain ⟨l₁, caughtUp, hread⟩ := readPage_of_ok "1"
    (l := { l.beforeFetch (ses.pause 0) with checkpoint := l.checkpoint.toStatus "draft" 1 }) hitems
  obtain ⟨hfetched, -⟩ := readPage_fetched hread
  obtain ⟨pg', hitems', hcaught', -, hflag, -, hcp⟩ := readPage_fields hread
  have hpg : pg' = pg := Except.ok.inj (hitems'.symm.trans hitems)
  subst hpg
  have hflags : (l.parseFailedAny || pg'.pageParseFailed) = false := by
    rw [hfailed, hblocked]
    rfl
  replace hflag : l₁.parseFailedAny = false := hflag.trans hflags
  replace hcp : l₁.checkpoint = advancePage (l.checkpoint.toStatus "draft" 1) pg' "1"
      (l.beforeFetch (ses.pause 0)).now := by
    refine hcp.trans (if_neg ?_)
    show ¬(l.parseFailedAny || pg'.pageParseFailed) = true
    rw [hflags]
    exact Bool.false_ne_true
  -- the next request finds no draft
  have hfetch' : ses.fetchPage 1 l₁.checkpoint = (.ok ([], ""), l₁.checkpoint) := by
    obtain ⟨hmode', -, hstatus'⟩ := advancePage_keys (l.checkpoint.toStatus "draft" 1) pg' "1"
      (l.beforeFetch (ses.pause 0)).now
    apply listedCatalogue_draft
    · rw [hcp, hmode']
      exact hmode
    · rw [hcp, advancePage_cursor hlast]
    · rw [hcp, hstatus']
      rfl
  have hne : [({ id := "50" } : GameboostOffer)] ≠ [] := List.cons_ne_nil _ _
  constructor
  · rw [fetchPages_read _ 9 hfetch hne hread, hflag, hcaught', hcaught]
    show (fetchPages svc ses start 9 1 l₁).1 = _
    rw [fetchPages_empty start 8 hfetch']
    show Except.ok (l₁.fetchedAny && _) = _
    rw [hfetched]
    rfl
  · rw [returnedItems]
    rw [show (l.beforeFetch (ses.pause 0)).checkpoint = l.checkpoint from rfl, hfetch]
    dsimp only
    rw [hread]
    show [_] ++ (if [_].isEmpty then [] else if l₁.parseFailedAny || caughtUp || "1" == "" then []
      else if pageLimitReached svc l₁.pagesFetched then []
      else returnedItems svc ses start 9 1 l₁) = _
    rw [hflag, hcaught', hcaught]
    show [_] ++ returnedItems svc ses start 9 1 l₁ = _
    rw [returnedItems]
    rw [show (l₁.beforeFetch (ses.pause 1)).checkpoint = l₁.checkpoint from rfl, hfetch']
    rfl

set_option maxRecDepth 4000 in
/-- The first run stops at its page limit after the first page.  The second one
resumes at the second page, completes the backfill, and takes the first page for
stale. -/
theorem reconciliation_spares_fails :
    ¬Along (listingStep gameboostListings 1) (SparesReturned gameboostListings 1)
      (ListingBackfill.init listedDb)
      [gameboostRun 0 (some 1) listedCatalogue, secondRun] := by
  intro h
  have hmode : (resumed.db.checkpoint .backfill).mode = .backfill := by rw [resumed_checkpoint]
  have hspares : SparesReturned gameboostListings 1 resumed secondRun := h.2.1
  rw [spares_iff hmode] at hspares
  have hstart : (startLoop (resumed.found secondRun) .backfill).checkpoint.mode = .backfill :=
    hmode
  obtain ⟨hcompletes, hreturned⟩ := secondRun_pages
    (l := startLoop (resumed.found secondRun) .backfill) hstart hstart
    (congrArg SyncCheckpoint.cursor resumed_checkpoint) rfl rfl
  have hopen : (resumed.db.checkpoint .backfill).status = .active := by rw [resumed_checkpoint]
  have hseen : (resumed.db.raws "0").map RawPayload.lastSeenAt = some 100 := by decide
  obtain ⟨raw, hraw, hlast⟩ := Option.map_eq_some_iff.mp hseen
  have hnow : resumed.db.now = 100 := by decide
  have hid : "0" ∈ resumed.returned := by decide
  have hbefore : ((resumed.found secondRun).checkpoint .backfill).status ≠ .completed := by
    rw [show ((resumed.found secondRun).checkpoint .backfill).status = .active from hopen]
    exact nofun
  have hold : raw.lastSeenAt < resumed.db.now + secondRun.wait := by
    rw [hlast, hnow]
    decide
  have hagain := hspares ⟨hbefore, hcompletes⟩ "0" hid raw hraw hold
  rw [returnedBy, hopen, if_neg (by decide), show secondRun.session.calls = 10 from rfl, hreturned]
    at hagain
  revert hagain
  decide

end Runs

end Sda.Sync
