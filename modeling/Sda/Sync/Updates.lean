/-
Sda/Sync/Updates.lean

Page-numbered feeds under the incremental order sync of PlayerAuctions and
GameBoost, and GameBoost's feed that is sorted by the last update.

An update moves an order to the top of the GameBoost feed (`raise`).  A run
stops at the bookmarked order by identity, wherever that order has moved.

* `numbered_serves` — a page-numbered API returns its feed part by part;
* `updates_ingested_iff` — when the run that completes ingests every order
  updated since the last run that stored a page.
-/
import Sda.Sync.Pages
import Sda.Sync.Refresh

namespace Sda.Sync

/-! ### Page-numbered feeds -/

section Numbered

variable {ι δ : Type} {size k : Nat} {feed rest : List ι} {cp : SyncCheckpoint}

/-- What is left of a feed at a checkpoint that numbers its pages. -/
def AtNumbered (size : Nat) (feed : List ι) (cp : SyncCheckpoint) (rest : List ι) : Prop :=
  cp.mode = .incremental ∧ ∃ k, cp.incrementalPage.getD 1 = k + 1 ∧ rest = feed.drop (k * size)

/-- What a call of a page-numbered service comes to, at page `k`. -/
def numberedPage (size k : Nat) (feed : List ι) (cp : SyncCheckpoint) :
    Except PyError (List ι × String) × SyncCheckpoint :=
  if (pageOf size k feed).isEmpty then (.ok ([], ""), cp)
  else
    let next := if k + 1 < pageCount size feed.length then natText (k + 1 + 1) else ""
    (.ok (pageOf size k feed, next), cp.trackPage next (k + 1 + 1))

/-- A service that fails or returns the numbered page serves the feed. -/
theorem numbered_serves {ses : Session ι δ} (hsize : 0 < size)
    (h : ∀ n cp k, cp.mode = .incremental → cp.incrementalPage.getD 1 = k + 1 →
      (∃ e, ses.fetchPage n cp = (.error e, cp)) ∨
        ses.fetchPage n cp = numberedPage size k feed cp) :
    Serves ses (AtNumbered size feed) := by
  rintro n cp rest ⟨hmode, k, hpage, rfl⟩
  rcases h n cp k hmode hpage with ⟨e, hfetch⟩ | hfetch
  · exact .inl ⟨e, cp, hfetch⟩
  right
  rw [hfetch, numberedPage]
  have hsplit := pageOf_append_drop size k feed
  by_cases hempty : pageOf size k feed = []
  · rw [hempty]
    refine ⟨[], "", cp, [], rfl, ?_, fun _ => rfl, rfl, rfl, fun h => absurd rfl h⟩
    exact List.drop_eq_nil_iff.mpr ((pageOf_eq_nil_iff hsize).mp hempty)
  rw [if_neg (by simpa using hempty)]
  have hmore := succ_lt_pageCount_iff hsize k feed.length
  by_cases hlt : k + 1 < pageCount size feed.length
  · rw [if_pos hlt]
    dsimp only
    rw [SyncCheckpoint.trackPage, if_pos ⟨hmode, natText_ne_empty _⟩]
    refine ⟨_, _, _, feed.drop ((k + 1) * size), rfl, hsplit.symm, ?_, rfl, rfl, ?_⟩
    · rintro (h | h)
      · exact absurd h hempty
      · exact absurd h (natText_ne_empty _)
    · intro _ _ cp'' hmode' hpage' _ _
      exact ⟨hmode'.trans hmode, k + 1, by rw [hpage']; rfl, rfl⟩
  · rw [if_neg hlt]
    dsimp only
    rw [SyncCheckpoint.trackPage, if_neg fun h => h.2 rfl]
    refine ⟨_, "", cp, [], rfl, ?_, fun _ => rfl, rfl, rfl, fun _ h => absurd rfl h⟩
    rw [← hsplit, List.drop_eq_nil_iff.mpr (Nat.not_lt.mp (mt hmore.mpr hlt))]

/-- The GameBoost API over a feed; `fail` is the message of a request that
fails. -/
def gameboostServeOr (fail : Option String) (feed : List GameboostOrder) (page : Nat)
    (sort : String) : GameboostAnswer :=
  match fail with
  | some message => .failed message
  | none => gameboostServe feed page sort

/-- The PlayerAuctions API over a feed. -/
def paServeOr (fail : Option String) (feed : List PaOrder) (page : Nat) : PaAnswer :=
  match fail with
  | some message => .failed message
  | none => paServe feed page

theorem gameboostFetchPage_numbered (fail : Option String) (feed : List GameboostOrder)
    (hmode : cp.mode = .incremental) (hpage : cp.incrementalPage.getD 1 = k + 1) :
    (∃ e, gameboostFetchPage (gameboostServeOr fail feed) cp = (.error e, cp)) ∨
      gameboostFetchPage (gameboostServeOr fail feed) cp
        = numberedPage gameboostPageSize k feed cp := by
  unfold gameboostFetchPage
  rw [page_incremental hmode, hpage]
  dsimp only
  rcases fail with - | message
  · right
    show (if (pageOf gameboostPageSize k feed).isEmpty then _ else _) = _
    have hcount : k + 1 < max 1 (pageCount gameboostPageSize feed.length) ↔
        k + 1 < pageCount gameboostPageSize feed.length := by
      omega
    rw [numberedPage]
    dsimp only [Option.getD_some]
    simp only [hcount]
    rfl
  · exact .inl ⟨_, rfl⟩

theorem paFetchPage_serve (feed : List PaOrder) (hmode : cp.mode = .incremental)
    (hpage : cp.incrementalPage.getD 1 = k + 1) :
    paFetchPage (paServeOr none feed) cp = numberedPage paPageSize k feed cp := by
  unfold paFetchPage
  rw [page_incremental hmode, hpage]
  show (if (pageOf paPageSize k feed).isEmpty then _ else _) = _
  rw [numberedPage]
  dsimp only
  rw [paTotalPages_eq]
  rfl

theorem paFetchPage_failed (message : String) (feed : List PaOrder)
    (hmode : cp.mode = .incremental) :
    ∃ e, paFetchPage (paServeOr (some message) feed) cp = (.error e, cp) := by
  unfold paFetchPage
  rw [page_incremental hmode]
  exact ⟨_, rfl⟩

end Numbered

/-! ### Updates of GameBoost orders -/

section Updates

variable {δ : Type}

/-- The id an order is stored under. -/
abbrev orderKey : GameboostOrder → String :=
  remoteKey gameboostOrderSync

/-- A run over the feed as it is then; `fails` are the messages of the requests
that fail. -/
def updatesRun (ses : Session GameboostOrder δ) (fails : Nat → Option String)
    (feed : List GameboostOrder) (db : SyncDb GameboostOrder δ) : SyncDb GameboostOrder δ :=
  runSync gameboostOrderSync
    (ses.over fun n => gameboostFetchPage (gameboostServeOr (fails n) feed))
    noReconcile .incremental db

/-- A run whose first request fails, after updates. -/
structure FailedAttempt (δ : Type) where
  updates : List GameboostOrder
  session : Session GameboostOrder δ
  message : String
  fails : Nat → Option String

/-- Runs whose first request fails: what they leave, and the updates before
them. -/
def failedAttempts (feed : List GameboostOrder) :
    List (FailedAttempt δ) → List GameboostOrder → SyncDb GameboostOrder δ →
      List GameboostOrder × SyncDb GameboostOrder δ
  | [], updates, db => (updates, db)
  | attempt :: attempts, updates, db =>
    let updates := updates ++ attempt.updates
    failedAttempts feed attempts updates
      (updatesRun attempt.session (fun n => if n = 0 then some attempt.message else attempt.fails n)
        (raiseAll orderKey feed updates) db)

/-- **Every update is ingested** by the run. -/
def IngestsUpdates (updates : List GameboostOrder) (db out : SyncDb GameboostOrder δ) : Prop :=
  ∀ o ∈ updates, SeenSince db.now out.raws (orderKey o)

/-- A run whose first request fails stores nothing and keeps the bookmark. -/
theorem updatesRun_failed (ses : Session GameboostOrder δ) (fails : Nat → Option String)
    {message : String} (feed : List GameboostOrder) {db : SyncDb GameboostOrder δ}
    (hdb : db.WellFormed) (hfail : fails 0 = some message) :
    (updatesRun ses fails feed db).WellFormed ∧
      (updatesRun ses fails feed db).start.lastSeenRemoteId = db.start.lastSeenRemoteId := by
  have hloop : ∃ e now, db.now ≤ now ∧ ∃ stop,
      fetchPages gameboostOrderSync
          (ses.over fun n => gameboostFetchPage (gameboostServeOr (fails n) feed)) db.start
          ses.calls 0 (startLoop db .incremental)
        = (.error e, { startLoop db .incremental with now, stopTimestamp := stop }) := by
    rcases hcalls : ses.calls with - | calls
    · exact ⟨.killed, db.now, Nat.le_refl _, none, rfl⟩
    · obtain ⟨e, hfetch⟩ : ∃ e, gameboostFetchPage (gameboostServeOr (fails 0) feed) db.start
          = (.error e, db.start) := by
        unfold gameboostFetchPage
        rw [hfail, page_incremental (show db.start.mode = _ from hdb.mode .incremental)]
        exact ⟨_, rfl⟩
      exact ⟨.raised e, db.now + ses.pause 0, Nat.le_add_right ..,
        ((startLoop db .incremental).beforeFetch (ses.pause 0)).stopTimestamp,
        fetchPages_error (l := startLoop db .incremental) db.start calls hfetch⟩
  obtain ⟨e, now, hnow, stop, hloop⟩ := hloop
  have hrun : updatesRun ses fails feed db = { db with
      now
      checkpoints := Function.update db.checkpoints .incremental (some db.start)
      runs := db.runs ++ [SyncRun.fail { mode := .incremental, createdAt := db.now } now e] } := by
    have hfetchLoop : fetchLoop gameboostOrderSync
        (ses.over fun n => gameboostFetchPage (gameboostServeOr (fails n) feed))
        (startLoop db .incremental)
          = (.error e, { startLoop db .incremental with now, stopTimestamp := stop }) := hloop
    unfold updatesRun runSync
    rw [if_neg (fun h => nomatch h.1), hfetchLoop]
    rfl
  rw [hrun]
  refine ⟨⟨fun mode => ?_, fun id raw hraw => (hdb.before id raw hraw).trans_le hnow⟩, rfl⟩
  cases mode with
  | backfill => exact hdb.mode .backfill
  | incremental => exact hdb.mode .incremental

theorem failedAttempts_keeps (feed : List GameboostOrder) (attempts : List (FailedAttempt δ))
    (updates : List GameboostOrder) {db : SyncDb GameboostOrder δ} (hdb : db.WellFormed) :
    (failedAttempts feed attempts updates db).2.WellFormed ∧
      (failedAttempts feed attempts updates db).2.start.lastSeenRemoteId
        = db.start.lastSeenRemoteId := by
  induction attempts generalizing updates db with
  | nil => exact ⟨hdb, rfl⟩
  | cons attempt attempts ih =>
    obtain ⟨hdb', hid⟩ := updatesRun_failed attempt.session
      (fun n => if n = 0 then some attempt.message else attempt.fails n)
      (raiseAll orderKey feed (updates ++ attempt.updates)) hdb (if_pos rfl)
    obtain ⟨hwell, hkeep⟩ := ih (updates ++ attempt.updates) hdb'
    exact ⟨hwell, hkeep.trans hid⟩

/-- The stop of GameBoost orders: the bookmarked order. -/
theorem seen_gameboost {db : SyncDb GameboostOrder δ} (hdb : db.WellFormed) (stop : Option Nat)
    (o : GameboostOrder) :
    seen gameboostOrderSync db.start stop o = true ↔
      db.start.lastSeenRemoteId ≠ "" ∧ stripText o.id = db.start.lastSeenRemoteId := by
  have hmode : db.start.mode = .incremental := hdb.mode .incremental
  rw [seen, hmode]
  simp [gameboostOrderSync]

/-- **What a run over the feed ingests**: the orders above the bookmarked one. -/
theorem updatesRun_seenSince_iff {ses : Session GameboostOrder δ} {fails : Nat → Option String}
    {feed : List GameboostOrder} {db : SyncDb GameboostOrder δ} (hdb : db.WellFormed)
    (h : CompletesWithoutError db (updatesRun ses fails feed db)) (id : String) :
    SeenSince db.now (updatesRun ses fails feed db).raws id ↔
      ∃ o ∈ above (seen gameboostOrderSync db.start db.start.lastSeenRemoteTimestamp) feed,
        orderKey o = id := by
  have hserve : Serves (ses.over fun n => gameboostFetchPage (gameboostServeOr (fails n) feed))
      (AtNumbered gameboostPageSize feed) := by
    apply numbered_serves (by decide)
    intro n cp k hmode hpage
    exact gameboostFetchPage_numbered (fails n) feed hmode hpage
  have hat : AtNumbered gameboostPageSize feed db.start feed :=
    ⟨hdb.mode .incremental, 0, rfl, by rw [Nat.zero_mul, List.drop_zero]⟩
  obtain ⟨page, rest, hfeed, -, hstores⟩ :=
    runSync_stores hserve rfl hat (hdb.mode .incremental) h
  have hscan : scan gameboostOrderSync db.start page rest
      = above (seen gameboostOrderSync db.start db.start.lastSeenRemoteTimestamp) feed := by
    rw [scan_eq_above (.inr fun ts => rfl), ← hfeed]
  rw [kept_eq_self fun _ => rfl] at hstores
  have hiff := hstores.seenSince_iff hdb.before id
  change _ ↔ ∃ o ∈ scan gameboostOrderSync db.start page rest, _ at hiff
  rw [hscan] at hiff
  exact hiff

/-- **When every update is ingested.**  Let a run complete without error, after
runs that failed at their first request.  It ingests every order created or
updated since the run before them exactly when the bookmarked order is not one of
these. -/
theorem updates_ingested_iff (feed : List GameboostOrder) (attempts : List (FailedAttempt δ))
    (updates : List GameboostOrder) (ses : Session GameboostOrder δ)
    (fails : Nat → Option String) (db : SyncDb GameboostOrder δ) :
    let earlier := failedAttempts feed attempts [] db
    let all := earlier.1 ++ updates
    let out := updatesRun ses fails (raiseAll orderKey feed all) earlier.2
    db.WellFormed → CompletesWithoutError earlier.2 out →
      (IngestsUpdates all earlier.2 out ↔
        db.start.lastSeenRemoteId = "" ∨
          ∀ o ∈ all, orderKey o ≠ db.start.lastSeenRemoteId) := by
  intro earlier all out hdb h
  obtain ⟨hwell, hid⟩ := failedAttempts_keeps feed attempts [] hdb
  have hseen := seen_gameboost hwell earlier.2.start.lastSeenRemoteTimestamp
  change earlier.2.start.lastSeenRemoteId = _ at hid
  rw [← hid]
  have hingested : ∀ o, SeenSince earlier.2.now out.raws (orderKey o) ↔ _ := fun o =>
    updatesRun_seenSince_iff hwell h (orderKey o)
  constructor
  · -- the bookmarked order stops the run before it is ingested
    intro hall
    by_contra hnot
    rw [not_or, not_forall] at hnot
    obtain ⟨hne, o, ho⟩ := hnot
    obtain ⟨hmem, hkey⟩ := Classical.not_imp.mp ho
    obtain ⟨o', ho', hkey'⟩ := (hingested o).mp (hall o hmem)
    have hstop := not_stop_of_mem_above ho'
    rw [Bool.eq_false_iff] at hstop
    apply hstop
    refine (hseen o').mpr ⟨hne, ?_⟩
    have hkey₂ : orderKey o' = earlier.2.start.lastSeenRemoteId :=
      hkey'.trans (not_not.mp hkey)
    rw [← hkey₂]
    exact (stripText_stripText _).symm
  · intro hcond o ho
    rw [hingested o]
    obtain ⟨top, hsplit, htop, hcover⟩ := raiseAll_split orderKey feed all
    obtain ⟨o', ho', hkey⟩ := hcover o ho
    refine ⟨o', ?_, hkey⟩
    rw [hsplit, above_append]
    · exact List.mem_append_left _ ho'
    · intro x hx
      rw [Bool.eq_false_iff]
      intro hstop
      obtain ⟨hne, hx'⟩ := (hseen x).mp hstop
      rcases hcond with hempty | hcond
      · exact hne hempty
      · obtain ⟨y, hy, hkeyY⟩ := List.mem_map.mp (htop x hx)
        apply hcond y hy
        rw [hkeyY, ← hx']
        exact stripText_stripText _

/-- Order "a" is bookmarked; then "b" is created, and "a" is updated. -/
def touchedUpdates : List GameboostOrder :=
  [{ id := "b", updatedAt := 110 }, { id := "a", updatedAt := 120 }]

/-- The rows after the run that bookmarked order "a". -/
def touchedDb : SyncDb GameboostOrder Unit where
  now := 200
  checkpoints mode :=
    if mode = .incremental then
      some { mode := .incremental, lastSeenRemoteId := "a", lastSeenRemoteTimestamp := some 50 }
    else none
  domain := ()

def touchedSession : Session GameboostOrder Unit where
  fetchPage _ cp := (.ok ([], ""), cp)
  parseAndApply _ _ d := (.ok .created, d)
  calls := 5

/-- The run after both. -/
def touchedRun : SyncDb GameboostOrder Unit :=
  updatesRun touchedSession (fun _ => none)
    (raiseAll orderKey [{ id := "a", updatedAt := 50 }] touchedUpdates) touchedDb

theorem touchedDb_wellFormed : touchedDb.WellFormed := by
  refine ⟨fun mode => ?_, fun id raw h => nomatch h⟩
  cases mode <;> rfl

theorem touchedRun_completes : CompletesWithoutError touchedDb touchedRun :=
  ⟨_, rfl, rfl, rfl⟩

theorem updates_ingested_at_touched :
    IngestsUpdates touchedUpdates touchedDb touchedRun ↔
      touchedDb.start.lastSeenRemoteId = "" ∨
        ∀ o ∈ touchedUpdates, orderKey o ≠ touchedDb.start.lastSeenRemoteId :=
  updates_ingested_iff [{ id := "a", updatedAt := 50 }] [] touchedUpdates touchedSession
    (fun _ => none) touchedDb touchedDb_wellFormed touchedRun_completes

/-- The run stops at the updated order "a", above the new order "b". -/
theorem updates_ingested_fails :
    CompletesWithoutError touchedDb touchedRun ∧
      ¬IngestsUpdates touchedUpdates touchedDb touchedRun := by
  refine ⟨touchedRun_completes, fun h => ?_⟩
  obtain ⟨raw, hraw, -⟩ := h { id := "b", updatedAt := 110 } List.mem_cons_self
  cases hraw

end Updates

end Sda.Sync
