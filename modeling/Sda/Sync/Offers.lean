/-
Sda/Sync/Offers.lean

The offer services of Eldorado and GameBoost (sync/services/*/offers/service.py):
one run fetches the offers of one status after those of the other, with the
status and the page in two transient keys of the checkpoint.

A page of the first status that is empty is followed by a request for the
second status in the same call.  To the fetch loop the two statuses are one
feed (`offers_serves`), with one stop.

Of an offer only what the hooks read is here.  `prepare_item` may come to
anything: what is stated holds for every session.

Main result: `statusCycling_iff`, when a run scans both statuses.
-/
import Sda.Sync.Orders
import Sda.Sync.Pages

namespace Sda.Sync

/-! ### Two statuses, one checkpoint -/

/-- What `fetch_products` answers, with the pagination it may leave out. -/
inductive OfferAnswer (ι : Type)
  | failed (message : String)
  | page (data : List ι) (currentPage lastPage : Option Nat)
  deriving Repr

/-- `_FETCH_STATUSES[_FETCH_STATUSES.index(status) + 1]`, if there is one. -/
def nextStatus (statuses : List String) (status : String) : Except PyError (Option String) :=
  match statuses.idxOf? status with
  | none => .error (.valueError "tuple.index(x): x not in tuple")
  | some i => .ok statuses[i + 1]?

/-- The transient keys of the next request. -/
def SyncCheckpoint.toStatus (cp : SyncCheckpoint) (status : String) (page : Nat) :
    SyncCheckpoint :=
  { cp with currentStatus := some status, incrementalPage := some page }

section Fetch

variable {ι : Type}

/-- `_fetch_status_page` of both services. -/
def fetchStatusPage (name : String) (statuses : List String)
    (fetchProducts : String → Nat → OfferAnswer ι) (status : String) (cp : SyncCheckpoint) :
    Except PyError (List ι × String) × SyncCheckpoint :=
  match cp.page with
  | .error e => (.error e, cp)
  | .ok page =>
    match fetchProducts status page with
    | .failed message =>
      (.error (.other
        s!"{name} API error on page {natText page} (status={status}): {message}"), cp)
    | .page items currentPage lastPage =>
      if items.isEmpty then (.ok ([], ""), cp)
      else
        let current := currentPage.getD page
        -- the response says that this status has more pages
        if current < lastPage.getD current then
          (.ok (items, natText (current + 1)),
            if cp.mode = .incremental then cp.toStatus status (current + 1) else cp)
        else
          -- the last page of the status: go on with the next status, from its first page
          match nextStatus statuses status with
          | .error e => (.error e, cp)
          | .ok none => (.ok (items, ""), cp)
          | .ok (some next) => (.ok (items, "1"), cp.toStatus next 1)

/-- `fetch_page` of both services. -/
def fetchOfferPage (name : String) (statuses : List String)
    (fetchProducts : String → Nat → OfferAnswer ι) (cp : SyncCheckpoint) :
    Except PyError (List ι × String) × SyncCheckpoint :=
  let status := cp.currentStatus.getD (statuses.headD "")
  match fetchStatusPage name statuses fetchProducts status cp with
  | (.error e, cp) => (.error e, cp)
  | (.ok (items, nextCursor), cp) =>
    -- an empty page does not end the run: the next status is asked in the same call
    if items.isEmpty then
      match nextStatus statuses status with
      | .error e => (.error e, cp)
      | .ok none => (.ok ([], ""), cp)
      | .ok (some next) =>
        fetchStatusPage name statuses fetchProducts next { cp.toStatus next 1 with cursor := "1" }
    else
      (.ok (items, nextCursor), cp)

/-- The requests save no more than the cursor and the transient keys. -/
theorem fetchStatusPage_mode (name : String) (statuses : List String)
    (fetchProducts : String → Nat → OfferAnswer ι) (status : String) (cp : SyncCheckpoint) :
    (fetchStatusPage name statuses fetchProducts status cp).2.mode = cp.mode := by
  unfold fetchStatusPage
  rcases cp.page with e | page
  · rfl
  dsimp only
  rcases fetchProducts status page with message | ⟨items, current, last⟩
  · rfl
  dsimp only
  by_cases hempty : items.isEmpty = true
  · rw [if_pos hempty]
  rw [if_neg hempty]
  split
  · split <;> rfl
  · rcases nextStatus statuses status with e | - | next <;> rfl

theorem fetchOfferPage_mode (name : String) (statuses : List String)
    (fetchProducts : String → Nat → OfferAnswer ι) (cp : SyncCheckpoint) :
    (fetchOfferPage name statuses fetchProducts cp).2.mode = cp.mode := by
  have hfirst := fetchStatusPage_mode name statuses fetchProducts
    (cp.currentStatus.getD (statuses.headD "")) cp
  unfold fetchOfferPage
  dsimp only
  generalize fetchStatusPage name statuses fetchProducts
    (cp.currentStatus.getD (statuses.headD "")) cp = out at hfirst ⊢
  rcases out with ⟨e | ⟨items, nextCursor⟩, cp'⟩
  · exact hfirst
  dsimp only
  by_cases hempty : items.isEmpty = true
  · rw [if_pos hempty]
    rcases nextStatus statuses (cp.currentStatus.getD (statuses.headD "")) with e | - | next
    · exact hfirst
    · exact hfirst
    · exact (fetchStatusPage_mode ..).trans hfirst
  · rw [if_neg hempty]
    exact hfirst

/-- `is_already_seen` of both services. -/
def offerAlreadySeen (remoteId : ι → String) (timestamp : ι → Option Nat)
    (stopTimestamp : Option Nat) (o : ι) (stopRemoteId : String) : Bool :=
  stopRemoteId != "" &&
    (remoteId o == stopRemoteId ||
      match stopTimestamp, timestamp o with
      | some stop, some ts => decide (ts < stop)
      | _, _ => false)

end Fetch

/-! ### Eldorado -/

structure EldoradoOffer where
  id : String
  expireDate : Option Nat := none
  details : String := ""
  deriving DecidableEq, Repr

/-- `EldoradoOfferSyncService`. -/
def eldoradoOfferSync : Service EldoradoOffer where
  extractRemoteId o := stripText o.id
  extractRemoteTimestamp o := o.expireDate
  isAlreadySeen := offerAlreadySeen (fun o => stripText o.id) fun o => o.expireDate

/-- `_FETCH_STATUSES` of Eldorado. -/
def eldoradoFetchStatuses : List String := ["Active", "Paused"]

/-- **`EldoradoOfferSyncService.fetch_page`**. -/
def eldoradoOfferFetchPage (fetchProducts : String → Nat → OfferAnswer EldoradoOffer) :
    SyncCheckpoint → Except PyError (List EldoradoOffer × String) × SyncCheckpoint :=
  fetchOfferPage "Eldorado" eldoradoFetchStatuses fetchProducts

/-! ### GameBoost -/

structure GameboostOffer where
  id : String
  updatedAt : Option Nat := none
  createdAt : Option Nat := none
  details : String := ""
  deriving DecidableEq, Repr

/-- `updated_at or created_at`. -/
def GameboostOffer.timestamp (o : GameboostOffer) : Option Nat :=
  match o.updatedAt with
  | some (t + 1) => some (t + 1)
  | _ => o.createdAt

/-- `GameboostOfferSyncService`. -/
def gameboostOfferSync : Service GameboostOffer where
  extractRemoteId o := stripText o.id
  extractRemoteTimestamp := GameboostOffer.timestamp
  isAlreadySeen := offerAlreadySeen (fun o => stripText o.id) GameboostOffer.timestamp

/-- `_FETCH_STATUSES` of GameBoost. -/
def gameboostFetchStatuses : List String := ["listed", "draft"]

/-- **`GameboostOfferSyncService.fetch_page`**; `fetchProducts` takes the status,
the page and the sort key. -/
def gameboostOfferFetchPage (fetchProducts : String → Nat → String → OfferAnswer GameboostOffer)
    (cp : SyncCheckpoint) : Except PyError (List GameboostOffer × String) × SyncCheckpoint :=
  fetchOfferPage "Gameboost" gameboostFetchStatuses
    (fun status page =>
      fetchProducts status page (if cp.mode = .incremental then "-updated_at" else "created_at"))
    cp

/-! ### A catalogue -/

/-- The offers of the two statuses, each in the order the API lists them. -/
structure Catalogue (ι : Type) where
  first : List ι
  second : List ι

section Catalogue

variable {ι : Type}

/-- What is read, in the order it is read. -/
def Catalogue.feed (cat : Catalogue ι) : List ι :=
  cat.first ++ cat.second

/-- The first page of the run. -/
def Catalogue.firstPage (size : Nat) (cat : Catalogue ι) : List ι :=
  if cat.first = [] then pageOf size 0 cat.second else pageOf size 0 cat.first

/-- The API over a catalogue; `fails` are the messages of the requests that
fail. -/
def serveOffers (size : Nat) (statuses : List String) (cat : Catalogue ι)
    (fails : String → Nat → Option String) (status : String) (page : Nat) : OfferAnswer ι :=
  match fails status page with
  | some message => .failed message
  | none =>
    let feed := if status = statuses.headD "" then cat.first else cat.second
    .page (pageOf size (page - 1) feed) (some page) (some (pageCount size feed.length))

/-- What is left of the catalogue at a checkpoint. -/
def AtOffers (size : Nat) (s₁ s₂ : String) (cat : Catalogue ι) (cp : SyncCheckpoint)
    (rest : List ι) : Prop :=
  cp.mode = .incremental ∧ ∃ k, cp.incrementalPage.getD 1 = k + 1 ∧
    ((cp.currentStatus.getD s₁ = s₁ ∧ rest = cat.first.drop (k * size) ++ cat.second) ∨
      (cp.currentStatus = some s₂ ∧ rest = cat.second.drop (k * size)))

variable {size : Nat} {name s₁ s₂ status : String} {statuses : List String} {cat : Catalogue ι}
variable {fails : String → Nat → Option String} {cp : SyncCheckpoint} {k : Nat} {feed : List ι}
variable {fetchProducts : String → Nat → OfferAnswer ι}

theorem nextStatus_first (s₁ s₂ : String) : nextStatus [s₁, s₂] s₁ = .ok (some s₂) := by
  simp [nextStatus, List.idxOf?_cons]

theorem nextStatus_second (h : s₁ ≠ s₂) : nextStatus [s₁, s₂] s₂ = .ok none := by
  simp [nextStatus, List.idxOf?_cons, h]

variable (name statuses) in
/-- A request that fails. -/
theorem fetchStatusPage_failed {message : String} (hmode : cp.mode = .incremental)
    (hpage : cp.incrementalPage.getD 1 = k + 1)
    (hanswer : fetchProducts status (k + 1) = .failed message) :
    ∃ e, fetchStatusPage name statuses fetchProducts status cp = (.error e, cp) := by
  unfold fetchStatusPage
  rw [page_incremental hmode, hpage]
  dsimp only
  rw [hanswer]
  exact ⟨_, rfl⟩

/-- A page past the end of its status. -/
theorem fetchStatusPage_empty (hmode : cp.mode = .incremental)
    (hpage : cp.incrementalPage.getD 1 = k + 1)
    (hanswer : fetchProducts status (k + 1)
      = .page (pageOf size k feed) (some (k + 1)) (some (pageCount size feed.length)))
    (hempty : pageOf size k feed = []) :
    fetchStatusPage name statuses fetchProducts status cp = (.ok ([], ""), cp) := by
  unfold fetchStatusPage
  rw [page_incremental hmode, hpage]
  dsimp only
  rw [hanswer, hempty]
  rfl

/-- A page that is not the last one of its status. -/
theorem fetchStatusPage_more (hsize : 0 < size) (hmode : cp.mode = .incremental)
    (hpage : cp.incrementalPage.getD 1 = k + 1)
    (hanswer : fetchProducts status (k + 1)
      = .page (pageOf size k feed) (some (k + 1)) (some (pageCount size feed.length)))
    (hempty : pageOf size k feed ≠ []) (hmore : (k + 1) * size < feed.length) :
    fetchStatusPage name statuses fetchProducts status cp
      = (.ok (pageOf size k feed, natText (k + 1 + 1)), cp.toStatus status (k + 1 + 1)) := by
  unfold fetchStatusPage
  rw [page_incremental hmode, hpage]
  dsimp only
  rw [hanswer]
  dsimp only [Option.getD_some]
  rw [if_neg (by simpa using hempty), if_pos ((succ_lt_pageCount_iff hsize k _).mpr hmore),
    if_pos hmode]

/-- The last page of its status. -/
theorem fetchStatusPage_last (hsize : 0 < size) (hmode : cp.mode = .incremental)
    (hpage : cp.incrementalPage.getD 1 = k + 1)
    (hanswer : fetchProducts status (k + 1)
      = .page (pageOf size k feed) (some (k + 1)) (some (pageCount size feed.length)))
    (hempty : pageOf size k feed ≠ []) (hlast : feed.length ≤ (k + 1) * size) :
    fetchStatusPage name statuses fetchProducts status cp
      = match nextStatus statuses status with
        | .error e => (.error e, cp)
        | .ok none => (.ok (pageOf size k feed, ""), cp)
        | .ok (some next) => (.ok (pageOf size k feed, "1"), cp.toStatus next 1) := by
  unfold fetchStatusPage
  rw [page_incremental hmode, hpage]
  dsimp only
  rw [hanswer]
  dsimp only [Option.getD_some]
  rw [if_neg (by simpa using hempty),
    if_neg fun hlt => Nat.not_lt.mpr hlast ((succ_lt_pageCount_iff hsize k _).mp hlt)]

/-- Whatever the cursor, the items are those of the page. -/
theorem fetchStatusPage_items {items : List ι} {nextCursor : String} {cp' : SyncCheckpoint}
    (hsize : 0 < size) (hmode : cp.mode = .incremental)
    (hpage : cp.incrementalPage.getD 1 = k + 1)
    (hanswer : fetchProducts status (k + 1)
      = .page (pageOf size k feed) (some (k + 1)) (some (pageCount size feed.length)))
    (h : fetchStatusPage name statuses fetchProducts status cp = (.ok (items, nextCursor), cp')) :
    items = pageOf size k feed := by
  by_cases hempty : pageOf size k feed = []
  · rw [fetchStatusPage_empty hmode hpage hanswer hempty] at h
    cases h
    exact hempty.symm
  -- the cursor differs, the items do not
  by_cases hmore : (k + 1) * size < feed.length
  · rw [fetchStatusPage_more hsize hmode hpage hanswer hempty hmore] at h
    cases h
    rfl
  · rw [fetchStatusPage_last hsize hmode hpage hanswer hempty (Nat.not_lt.mp hmore)] at h
    generalize nextStatus statuses status = after at h
    rcases after with e | - | next <;> cases h <;> rfl

/-- What a served request is answered. -/
theorem serveOffers_eq (size : Nat) (statuses : List String) (cat : Catalogue ι)
    (fails : String → Nat → Option String) (status : String) (k : Nat) :
    (∃ message, serveOffers size statuses cat fails status (k + 1) = .failed message) ∨
      serveOffers size statuses cat fails status (k + 1)
        = .page (pageOf size k (if status = statuses.headD "" then cat.first else cat.second))
            (some (k + 1))
            (some (pageCount size
              (if status = statuses.headD "" then cat.first else cat.second).length)) := by
  unfold serveOffers
  rcases fails status (k + 1) with - | message
  · exact .inr rfl
  · exact .inl ⟨message, rfl⟩

/-- What a call comes to: it fails, or returns the next part of what is left. -/
def Advances (size : Nat) (s₁ s₂ : String) (cat : Catalogue ι) (cp : SyncCheckpoint)
    (rest : List ι) (out : Except PyError (List ι × String) × SyncCheckpoint) : Prop :=
  (∃ exc cp', out = (.error exc, cp')) ∨
    ∃ items nextCursor cp' rest', out = (.ok (items, nextCursor), cp') ∧
      rest = items ++ rest' ∧ (items = [] ∨ nextCursor = "" → rest' = []) ∧
      cp'.mode = cp.mode ∧ cp'.lastSeenRemoteTimestamp = cp.lastSeenRemoteTimestamp ∧
      (items ≠ [] → nextCursor ≠ "" → ∀ cp'' : SyncCheckpoint, cp''.mode = cp'.mode →
        cp''.incrementalPage = cp'.incrementalPage → cp''.currentStatus = cp'.currentStatus →
        cp''.cursor = nextCursor → AtOffers size s₁ s₂ cat cp'' rest')

variable (name cat fails) in
/-- **A request for the second status**. -/
theorem fetchSecond_advances (hsize : 0 < size) (hne : s₁ ≠ s₂) (hmode : cp.mode = .incremental)
    (hpage : cp.incrementalPage.getD 1 = k + 1) :
    Advances size s₁ s₂ cat cp (cat.second.drop (k * size))
      (fetchStatusPage name [s₁, s₂] (serveOffers size [s₁, s₂] cat fails) s₂ cp) := by
  rcases serveOffers_eq size [s₁, s₂] cat fails s₂ k with ⟨message, hanswer⟩ | hanswer
  · obtain ⟨e, hfetch⟩ := fetchStatusPage_failed name [s₁, s₂] hmode hpage
      hanswer
    exact .inl ⟨e, cp, hfetch⟩
  rw [if_neg (show s₂ ≠ [s₁, s₂].headD "" from hne.symm)] at hanswer
  have hsplit := pageOf_append_drop size k cat.second
  right
  by_cases hempty : pageOf size k cat.second = []
  · rw [fetchStatusPage_empty hmode hpage hanswer hempty]
    have hdrop : cat.second.drop (k * size) = [] :=
      List.drop_eq_nil_iff.mpr ((pageOf_eq_nil_iff hsize).mp hempty)
    exact ⟨[], "", cp, [], rfl, hdrop, fun _ => rfl, rfl, rfl, fun h => absurd rfl h⟩
  by_cases hmore : (k + 1) * size < cat.second.length
  · rw [fetchStatusPage_more hsize hmode hpage hanswer hempty hmore]
    refine ⟨_, _, _, cat.second.drop ((k + 1) * size), rfl, hsplit.symm, ?_, rfl, rfl, ?_⟩
    · rintro (h | h)
      · exact absurd h hempty
      · exact absurd h (natText_ne_empty _)
    · intro _ _ cp'' hmode' hpage' hstatus' _
      exact ⟨hmode'.trans hmode, k + 1, by rw [hpage']; rfl, .inr ⟨hstatus', rfl⟩⟩
  -- the last page of the second status is the end of the feed
  · have hlast := Nat.not_lt.mp hmore
    rw [fetchStatusPage_last hsize hmode hpage hanswer hempty hlast, nextStatus_second hne]
    refine ⟨_, "", cp, [], rfl, ?_, fun _ => rfl, rfl, rfl, fun _ h => absurd rfl h⟩
    rw [← hsplit, List.drop_eq_nil_iff.mpr hlast]

/-- **The two statuses are one feed**: every call fails or returns its next
part. -/
theorem fetchOfferPage_advances (hsize : 0 < size) (hne : s₁ ≠ s₂) {rest : List ι}
    (hat : AtOffers size s₁ s₂ cat cp rest) :
    Advances size s₁ s₂ cat cp rest
      (fetchOfferPage name [s₁, s₂] (serveOffers size [s₁, s₂] cat fails) cp) := by
  obtain ⟨hmode, k, hpage, ⟨hstatus, rfl⟩ | ⟨hstatus, rfl⟩⟩ := hat
  · unfold fetchOfferPage
    rw [show cp.currentStatus.getD ([s₁, s₂].headD "") = s₁ from hstatus]
    dsimp only
    have hsplit := pageOf_append_drop size k cat.first
    rcases serveOffers_eq size [s₁, s₂] cat fails s₁ k with ⟨message, hanswer⟩ | hanswer
    · obtain ⟨e, hfetch⟩ := fetchStatusPage_failed name [s₁, s₂] hmode
        hpage hanswer
      rw [hfetch]
      exact .inl ⟨e, cp, rfl⟩
    rw [if_pos (show s₁ = [s₁, s₂].headD "" from rfl)] at hanswer
    by_cases hempty : pageOf size k cat.first = []
    · -- nothing more of the first status: the second one follows in this call
      rw [fetchStatusPage_empty hmode hpage hanswer hempty]
      dsimp only
      rw [if_pos List.isEmpty_nil, nextStatus_first]
      dsimp only
      rw [List.drop_eq_nil_iff.mpr ((pageOf_eq_nil_iff hsize).mp hempty), List.nil_append]
      have hmode' : ({ cp.toStatus s₂ 1 with cursor := "1" } : SyncCheckpoint).mode
          = .incremental := hmode
      have hnext := fetchSecond_advances (k := 0) name cat fails hsize hne hmode' rfl
      rw [Nat.zero_mul, List.drop_zero] at hnext
      exact hnext
    -- another page of the first status follows, or the second status does
    by_cases hmore : (k + 1) * size < cat.first.length
    · rw [fetchStatusPage_more hsize hmode hpage hanswer hempty hmore]
      dsimp only
      rw [if_neg (by simpa using hempty)]
      refine .inr ⟨_, _, _, cat.first.drop ((k + 1) * size) ++ cat.second, rfl, ?_, ?_, rfl, rfl, ?_⟩
      · rw [← hsplit, List.append_assoc]
      · rintro (h | h)
        · exact absurd h hempty
        · exact absurd h (natText_ne_empty _)
      · intro _ _ cp'' hmode' hpage' hstatus' _
        exact ⟨hmode'.trans hmode, k + 1, by rw [hpage']; rfl, .inl ⟨by rw [hstatus']; rfl, rfl⟩⟩
    · have hlast := Nat.not_lt.mp hmore
      rw [fetchStatusPage_last hsize hmode hpage hanswer hempty hlast, nextStatus_first]
      dsimp only
      rw [if_neg (by simpa using hempty)]
      refine .inr ⟨_, "1", _, cat.second, rfl, ?_, ?_, rfl, rfl, ?_⟩
      · rw [← hsplit, List.drop_eq_nil_iff.mpr hlast, List.append_nil]
      · rintro (h | h)
        · exact absurd h hempty
        · exact absurd h (by decide)
      · intro _ _ cp'' hmode' hpage' hstatus' _
        exact ⟨hmode'.trans hmode, 0, by rw [hpage']; rfl, .inr ⟨hstatus', by simp⟩⟩
  · unfold fetchOfferPage
    rw [hstatus]
    dsimp only [Option.getD_some]
    -- already in the second status: its request is the whole call
    rcases fetchSecond_advances name cat fails hsize hne hmode hpage with
      ⟨e, cp', hfetch⟩ | ⟨items, next, cp', rest', hfetch, hrest, hend, hkeep⟩
    · rw [hfetch]
      exact .inl ⟨e, cp', rfl⟩
    · rw [hfetch]
      dsimp only
      by_cases hitems : items = []
      · rw [hitems, if_pos List.isEmpty_nil, nextStatus_second hne]
        refine .inr ⟨[], "", cp', [], rfl, ?_, fun _ => rfl, hkeep.1, hkeep.2.1,
          fun h => absurd rfl h⟩
        rw [hrest, hitems, hend (.inl hitems)]
      · rw [if_neg (by simpa using hitems)]
        exact .inr ⟨items, next, cp', rest', rfl, hrest, hend, hkeep⟩

end Catalogue

/-! ### When a run scans both statuses -/

section Scan

variable {ι δ : Type}

/-- Was the item already seen, to the checkpoint a run starts from? -/
def SyncDb.alreadySeen (svc : Service ι) (db : SyncDb ι δ) : ι → Bool :=
  seen svc db.start db.start.lastSeenRemoteTimestamp

/-- Newer than the checkpoint. -/
def Newer (svc : Service ι) (cp : SyncCheckpoint) (o : ι) : Prop :=
  ∀ stop, cp.lastSeenRemoteTimestamp = some stop →
    ∃ ts, svc.extractRemoteTimestamp o = some ts ∧ stop < ts

/-- **A run scans both statuses**: it ingests every offer newer than the
checkpoint and, where the first status has an offer that was already seen, still
what is above the first such offer of the second status. -/
def ScansBothStatuses (svc : Service ι) (cat : Catalogue ι) (db out : SyncDb ι δ) : Prop :=
  (∀ o ∈ cat.feed, Newer svc db.start o → SeenSince db.now out.raws (remoteKey svc o)) ∧
    ((∃ o ∈ cat.first, db.alreadySeen svc o = true) →
      ∀ o ∈ above (db.alreadySeen svc) cat.second, SeenSince db.now out.raws (remoteKey svc o))

/-- What a run reads of the catalogue. -/
def Catalogue.scanned (svc : Service ι) (size : Nat) (db : SyncDb ι δ) (cat : Catalogue ι) :
    List ι :=
  scan svc db.start (cat.firstPage size) (cat.feed.drop (cat.firstPage size).length)

/-- **The condition**: no offer to be scanned is found only below the first one
already seen, the offers of the second status after those of the first. -/
def ScanCovers (svc : Service ι) (size : Nat) (cat : Catalogue ι) (db : SyncDb ι δ) : Prop :=
  (∀ o ∈ cat.feed, Newer svc db.start o →
      ∃ o' ∈ cat.scanned svc size db, remoteKey svc o' = remoteKey svc o) ∧
    ((∃ o ∈ cat.first, db.alreadySeen svc o = true) →
      ∀ o ∈ above (db.alreadySeen svc) cat.second,
        ∃ o' ∈ cat.scanned svc size db, remoteKey svc o' = remoteKey svc o)

/-- The first call of a run returns the first page. -/
theorem fetchOfferPage_first {size : Nat} {name s₁ s₂ : String} {cat : Catalogue ι}
    {fails : String → Nat → Option String} {cp cp' : SyncCheckpoint} {page : List ι}
    {next : String} (hsize : 0 < size) (hne : s₁ ≠ s₂) (hmode : cp.mode = .incremental)
    (hpage : cp.incrementalPage = none) (hstatus : cp.currentStatus = none)
    (h : fetchOfferPage name [s₁, s₂] (serveOffers size [s₁, s₂] cat fails) cp
      = (.ok (page, next), cp')) :
    page = cat.firstPage size := by
  have hpage₀ : cp.incrementalPage.getD 1 = 0 + 1 := by rw [hpage]; rfl
  unfold fetchOfferPage at h
  rw [hstatus] at h
  dsimp only [Option.getD_none, List.headD_cons] at h
  rcases serveOffers_eq size [s₁, s₂] cat fails s₁ 0 with ⟨message, hanswer⟩ | hanswer
  · obtain ⟨e, hfetch⟩ := fetchStatusPage_failed name [s₁, s₂] hmode hpage₀
      hanswer
    rw [hfetch] at h
    cases h
  rw [if_pos (show s₁ = [s₁, s₂].headD "" from rfl)] at hanswer
  have hfirst : pageOf size 0 cat.first = [] ↔ cat.first = [] := by
    rw [pageOf_eq_nil_iff hsize, Nat.zero_mul, Nat.le_zero, List.length_eq_zero_iff]
  unfold Catalogue.firstPage
  -- without offers of the first status the call returns the second one's first page
  by_cases hempty : cat.first = []
  · rw [fetchStatusPage_empty hmode hpage₀ hanswer (hfirst.mpr hempty)] at h
    dsimp only at h
    rw [if_pos List.isEmpty_nil, nextStatus_first] at h
    dsimp only at h
    rw [if_pos hempty]
    have hmode' : ({ cp.toStatus s₂ 1 with cursor := "1" } : SyncCheckpoint).mode = .incremental :=
      hmode
    rcases serveOffers_eq size [s₁, s₂] cat fails s₂ 0 with ⟨message, hanswer₂⟩ | hanswer₂
    · obtain ⟨e, hfetch⟩ := fetchStatusPage_failed name [s₁, s₂] hmode'
        rfl hanswer₂
      rw [hfetch] at h
      cases h
    · rw [if_neg (show s₂ ≠ [s₁, s₂].headD "" from hne.symm)] at hanswer₂
      exact fetchStatusPage_items hsize hmode' rfl hanswer₂ h
  · rw [if_neg hempty]
    rcases hout : fetchStatusPage name [s₁, s₂] (serveOffers size [s₁, s₂] cat fails) s₁ cp with
      ⟨e | ⟨items, next'⟩, cp''⟩
    · rw [hout] at h
      cases h
    · rw [hout] at h
      have hitems := fetchStatusPage_items hsize hmode hpage₀ hanswer hout
      dsimp only at h
      rw [if_neg (by simpa [hitems] using mt hfirst.mp hempty)] at h
      cases h
      exact hitems

/-- **A run over a catalogue** that completes without error ingests exactly what
it scans. -/
theorem offers_seenSince_iff [DecidableEq ι] {svc : Service ι} {ses : Session ι δ}
    {db : SyncDb ι δ} {cat : Catalogue ι} {size : Nat} {name s₁ s₂ : String}
    {fails : Nat → String → Nat → Option String}
    {reconcile : SyncRun → SyncDb ι δ → SyncRun × SyncDb ι δ} (hsize : 0 < size) (hne : s₁ ≠ s₂)
    (hsvc : svc.maxPages = none) (hskip : ∀ o, svc.shouldSkipItem o = false)
    (hses : ∀ n cp, cp.mode = .incremental → ses.fetchPage n cp
      = fetchOfferPage name [s₁, s₂] (serveOffers size [s₁, s₂] cat (fails n)) cp)
    (hdb : db.WellFormed)
    (h : CompletesWithoutError db (runSync svc ses reconcile .incremental db)) (id : String) :
    SeenSince db.now (runSync svc ses reconcile .incremental db).raws id ↔
      ∃ o ∈ cat.scanned svc size db, remoteKey svc o = id := by
  have hserve : Serves ses (AtOffers size s₁ s₂ cat) := by
    intro n cp rest hat
    rw [hses n cp hat.1]
    exact fetchOfferPage_advances hsize hne hat
  have hat : AtOffers size s₁ s₂ cat db.start cat.feed :=
    ⟨hdb.mode .incremental, 0, rfl, .inl ⟨rfl, by simp [Catalogue.feed]⟩⟩
  obtain ⟨page, rest, hfeed, hpage, hstores⟩ :=
    runSync_stores hserve hsvc hat (hdb.mode .incremental) h
  have hfirst : page = cat.firstPage size := by
    rcases hpage with ⟨rfl, rfl⟩ | ⟨-, next, cp', hfetch⟩
    · -- an empty catalogue
      obtain ⟨h₁, h₂⟩ := List.append_eq_nil_iff.mp hfeed
      rw [Catalogue.firstPage, h₁, h₂, if_pos rfl]
      exact (pageOf_eq_nil_iff hsize |>.mpr (Nat.zero_le _)).symm
    · have hcall := hses 0 db.start (hdb.mode .incremental)
      rw [show ses.fetchPage 0 db.start = _ from hfetch] at hcall
      exact fetchOfferPage_first hsize hne (show db.start.mode = _ from hdb.mode .incremental) rfl
        rfl hcall.symm
  -- the rest of the feed, after the first page
  have hrest : rest = cat.feed.drop (cat.firstPage size).length := by
    rw [hfeed, ← hfirst, List.drop_left]
  rw [kept_eq_self hskip, hfirst, hrest] at hstores
  exact hstores.seenSince_iff hdb.before id

/-- Over what a run ingests, scanning both statuses is the condition. -/
theorem scansBothStatuses_iff {svc : Service ι} {db out : SyncDb ι δ} {cat : Catalogue ι}
    {size : Nat} (h : ∀ id, SeenSince db.now out.raws id ↔
      ∃ o ∈ cat.scanned svc size db, remoteKey svc o = id) :
    ScansBothStatuses svc cat db out ↔ ScanCovers svc size cat db := by
  unfold ScansBothStatuses ScanCovers
  simp only [h]

/-- `_PAGE_SIZE` of Eldorado. -/
def eldoradoOfferPageSize : Nat := 40

/-- `DEFAULT_PAGE_SIZE` of GameBoost. -/
def gameboostOfferPageSize : Nat := 50

/-- **When a run scans both statuses.**  An incremental run over any catalogue
that completes without error does exactly when no offer to be scanned is found
only below the first one already seen. -/
theorem statusCycling_iff (fails : Nat → String → Nat → Option String) :
    (∀ (cat : Catalogue EldoradoOffer) (ses : Session EldoradoOffer δ)
        (db : SyncDb EldoradoOffer δ),
      let out := runSync eldoradoOfferSync
        (ses.over fun n => eldoradoOfferFetchPage
          (serveOffers eldoradoOfferPageSize eldoradoFetchStatuses cat (fails n)))
        noReconcile .incremental db
      db.WellFormed → CompletesWithoutError db out →
        (ScansBothStatuses eldoradoOfferSync cat db out ↔
          ScanCovers eldoradoOfferSync eldoradoOfferPageSize cat db)) ∧
    (∀ (cat : Catalogue GameboostOffer) (ses : Session GameboostOffer δ)
        (db : SyncDb GameboostOffer δ),
      let out := runSync gameboostOfferSync
        (ses.over fun n => gameboostOfferFetchPage fun status page _ =>
          serveOffers gameboostOfferPageSize gameboostFetchStatuses cat (fails n) status page)
        noReconcile .incremental db
      db.WellFormed → CompletesWithoutError db out →
        (ScansBothStatuses gameboostOfferSync cat db out ↔
          ScanCovers gameboostOfferSync gameboostOfferPageSize cat db)) := by
  constructor
  · intro cat ses db out hdb h
    apply scansBothStatuses_iff
    exact offers_seenSince_iff (by decide) (by decide) rfl (fun _ => rfl) (fun _ _ _ => rfl) hdb h
  · intro cat ses db out hdb h
    apply scansBothStatuses_iff
    exact offers_seenSince_iff (by decide) (by decide) rfl (fun _ => rfl) (fun _ _ _ => rfl) hdb h

/-- The bookmarked offer is still active; a newer one is paused. -/
def pausedCatalogue : Catalogue EldoradoOffer where
  first := [{ id := "seen", expireDate := some 50 }]
  second := [{ id := "paused", expireDate := some 90 }]

/-- The rows after the run that saw the active offer. -/
def bookmarkedDb : SyncDb EldoradoOffer Unit where
  now := 100
  checkpoints mode :=
    if mode = .incremental then
      some { mode := .incremental, lastSeenRemoteId := "seen", lastSeenRemoteTimestamp := some 50 }
    else none
  domain := ()

def pausedSession : Session EldoradoOffer Unit where
  fetchPage _ cp := (.ok ([], ""), cp)
  parseAndApply _ _ d := (.ok .created, d)
  calls := 5

theorem bookmarkedDb_wellFormed : bookmarkedDb.WellFormed := by
  refine ⟨fun mode => ?_, fun id raw h => nomatch h⟩
  cases mode <;> rfl

def pausedRun : SyncDb EldoradoOffer Unit :=
  runSync eldoradoOfferSync
    (pausedSession.over fun _ => eldoradoOfferFetchPage
      (serveOffers eldoradoOfferPageSize eldoradoFetchStatuses pausedCatalogue fun _ _ => none))
    noReconcile .incremental bookmarkedDb

theorem pausedRun_completes : CompletesWithoutError bookmarkedDb pausedRun :=
  ⟨_, rfl, rfl, rfl⟩

theorem statusCycling_at_paused :
    ScansBothStatuses eldoradoOfferSync pausedCatalogue bookmarkedDb pausedRun ↔
      ScanCovers eldoradoOfferSync eldoradoOfferPageSize pausedCatalogue bookmarkedDb :=
  (statusCycling_iff fun _ _ _ => none).1 pausedCatalogue pausedSession bookmarkedDb
    bookmarkedDb_wellFormed pausedRun_completes

/-- The run completes at the active offer and never reaches the paused one. -/
theorem statusCycling_fails :
    CompletesWithoutError bookmarkedDb pausedRun ∧
      ¬ScansBothStatuses eldoradoOfferSync pausedCatalogue bookmarkedDb pausedRun := by
  refine ⟨pausedRun_completes, fun h => ?_⟩
  obtain ⟨raw, hraw, -⟩ := h.1 { id := "paused", expireDate := some 90 } (by decide)
    (fun stop hstop => ⟨90, rfl, by cases hstop; decide⟩)
  cases hraw

end Scan

end Sda.Sync
