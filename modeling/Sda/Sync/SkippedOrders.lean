/-
Sda/Sync/SkippedOrders.lean

PlayerAuctions orders that are first returned in a status that is skipped.

The bookmark of a run is the newest order it reads, skipped or not, and the
next run stops there before it looks at a status.  So an order whose status
changes later is only ingested if no run has moved the bookmark to it, or past
it, in between.

* `fetchPages_reads` — any run stores orders it needs, and leaves the bookmark
  or moves it to the top of the feed;
* `skipped_order_ingested_iff` — an order is ingested after its status changed
  exactly if it still stood above the bookmark when it changed;
* `skipped_order_ingested_fails` — an order that became the bookmark before it was
  paid.
-/
import Sda.Sync.Bookmarks

namespace Sda.Sync

section SkippedOrders

variable {δ : Type}

/-- New statuses of orders on the feed, by id, then a run. -/
structure StatusRun (δ : Type) where
  status : String → Option String := fun _ => none
  run : PaRun δ

def PaOrder.restated (status : String → Option String) (o : PaOrder) : PaOrder :=
  { o with status := (status (paKey o)).getD o.status }

/-- The feed after the statuses changed. -/
def PaState.restated (s : PaState δ) (status : String → Option String) : PaState δ where
  db := s.db
  newer := s.newer.map (PaOrder.restated status)
  older := s.older.map (PaOrder.restated status)

def statusStep (s : PaState δ) (e : StatusRun δ) : PaState δ :=
  paStep (s.restated e.status) e.run

/-- What the run finds on the feed. -/
def PaState.feedFor (s : PaState δ) (e : StatusRun δ) : List PaOrder :=
  (s.restated e.status).feedAfter e.run

/-- The order is on the feed. -/
def OnFeed (s : PaState δ) (k : String) : Prop :=
  ∃ o ∈ s.newer ++ s.older, paKey o = k

/-- The order stands above the bookmark. -/
def AboveBookmark (s : PaState δ) (k : String) : Prop :=
  ∃ o ∈ above (atBookmark s.bookmark) (s.newer ++ s.older), paKey o = k

/-- The order is stored. -/
def Ingested (s : PaState δ) (k : String) : Prop :=
  ∃ raw, s.db.raws k = some raw

/-- The run finds the order in a status that is skipped, or not at all. -/
def Skipped (k : String) (s : PaState δ) (e : StatusRun δ) : Prop :=
  ∀ o ∈ s.feedFor e, paKey o = k → o.status ∈ paSkipStatuses

/-- The run finds the order in a status that is not skipped, or not at all. -/
def Sold (k : String) (s : PaState δ) (e : StatusRun δ) : Prop :=
  ∀ o ∈ s.feedFor e, paKey o = k → o.status ∉ paSkipStatuses

/-! ### One run -/

variable {s : PaState δ} {e : PaRun δ} {k : String}

/-- The bookmark is the one the run started from, or the newest order. -/
def BookmarkFrom (s : PaState δ) (e : PaRun δ) (bookmark : String) : Prop :=
  bookmark = s.bookmark ∨
    ∃ o, (s.needed e).head? = some o ∧ paKey o ≠ "" ∧ bookmark = paKey o

/-- The run needs no order of that id, or only in a status that is skipped. -/
def NotStored (s : PaState δ) (e : PaRun δ) (k : String) : Prop :=
  ∀ o ∈ s.needed e, o.status ∉ paSkipStatuses → paKey o ≠ k

/-- A page of the feed that is followed by another. -/
theorem paFetchPage_more {feed : List PaOrder} {cp : SyncCheckpoint} {j : Nat}
    (hmode : cp.mode = .incremental) (hpage : cp.incrementalPage.getD 1 = j + 1)
    (hne : pageOf paPageSize j feed ≠ []) :
    ∃ next cp', paFetchPage (paServeOr none feed) cp
        = (.ok (pageOf paPageSize j feed, next), cp') ∧
      cp'.lastSeenRemoteId = cp.lastSeenRemoteId ∧ cp'.mode = .incremental ∧
      (next ≠ "" → (j + 1) * paPageSize < feed.length ∧ cp'.incrementalPage = some (j + 1 + 1)) := by
  rw [paFetchPage_serve feed hmode hpage, numberedPage, if_neg (by simpa using hne)]
  refine ⟨_, _, rfl, trackPage_lastSeenRemoteId .., by rw [trackPage_mode, hmode], fun hnext => ?_⟩
  by_cases hmore : j + 1 < pageCount paPageSize feed.length
  · refine ⟨(succ_lt_pageCount_iff (by decide) j _).mp hmore, ?_⟩
    rw [if_pos hmore, SyncCheckpoint.trackPage, if_pos ⟨hmode, natText_ne_empty _⟩]
  · exact absurd (if_neg hmore) hnext

/-- Only a feed with a first entry has a page. -/
theorem head?_of_pageOf {feed : List PaOrder} {j : Nat} (h : pageOf paPageSize j feed ≠ []) :
    ∃ o, feed.head? = some o := by
  rcases feed with - | ⟨o, feed⟩
  · exact absurd (by simp [pageOf]) h
  · exact ⟨o, rfl⟩

/-- **The pages a run reads**, from page `j` on: it stores no order it does not need, nor one in
a status that is skipped, and leaves the bookmark or moves it to the newest order. -/
theorem fetchPages_reads {l : Loop PaOrder δ} {start : SyncCheckpoint} {calls j : Nat}
    (hstart : start.mode = .incremental) (hbookmark : start.lastSeenRemoteId = s.bookmark)
    (hmode : l.checkpoint.mode = .incremental)
    (hpage : l.checkpoint.incrementalPage.getD 1 = j + 1)
    (hread : j * paPageSize ≤ (s.needed e).length)
    (hfirst : l.first = if j = 0 then none else (s.needed e).head?.map fun o =>
      (paKey o, o.createTime))
    (hid : j ≠ 0 → ∀ o, (s.needed e).head? = some o → paKey o ≠ "")
    (hmark : BookmarkFrom s e l.checkpoint.lastSeenRemoteId) :
    (NotStored s e k → (fetchPages (playerAuctionsOrderSync e.maxPages) (e.over (s.feedAfter e))
        start calls j l).2.raws k = l.raws k) ∧
      BookmarkFrom s e (fetchPages (playerAuctionsOrderSync e.maxPages) (e.over (s.feedAfter e))
        start calls j l).2.checkpoint.lastSeenRemoteId := by
  induction calls generalizing j l with
  | zero => exact ⟨fun _ => rfl, hmark⟩
  | succ calls ih =>
    rcases hfail : e.fails j with - | message
    case some =>
      obtain ⟨exc, hfetch⟩ := paFetchPage_failed message (s.feedAfter e) hmode
      rw [← hfail] at hfetch
      rw [fetchPages_error start calls hfetch]
      exact ⟨fun _ => rfl, hmark⟩
    by_cases hempty : pageOf paPageSize j (s.feedAfter e) = []
    · have hfetch := paFetchPage_serve (s.feedAfter e) hmode hpage
      rw [numberedPage, if_pos (by rw [hempty]; rfl), ← hfail] at hfetch
      rw [fetchPages_empty start calls hfetch, (finish_fields ..).1, (finish_bookmark ..).1]
      exact ⟨fun _ => rfl, hmark⟩
    obtain ⟨next, cp, hfetch, hcp, hcpMode, hmore⟩ := paFetchPage_more hmode hpage hempty
    rw [← hfail] at hfetch
    rcases hpg : readPage (playerAuctionsOrderSync e.maxPages) (e.over (s.feedAfter e)) start j
        (pageOf paPageSize j (s.feedAfter e)) next
        { l.beforeFetch ((e.over (s.feedAfter e)).pause j) with checkpoint := cp }
      with exc | ⟨l', caughtUp⟩
    · rw [fetchPages_rolledBack calls hfetch hempty hpg]
      refine ⟨fun _ => rfl, ?_⟩
      rw [show ({ l.beforeFetch _ with checkpoint := cp } : Loop PaOrder δ).checkpoint = cp from rfl,
        hcp]
      exact hmark
    -- what is above the bookmark on the page is a page of what the run needs
    have habove : above (atBookmark s.bookmark) (pageOf paPageSize j (s.feedAfter e))
        = pageOf paPageSize j (s.needed e) := above_pageOf hread
    obtain ⟨pg, hitems, hcaught, hraws, hflag, -, hcheckpoint⟩ := readPage_fields hpg
    have hfirst' : l'.first = pg.first := by
      obtain ⟨pg₁, hitems', -, rfl⟩ := readPage_ok hpg
      rw [hitems] at hitems'
      cases hitems'
      rfl
    rw [seen_pa hstart, hbookmark] at hitems
    have hraw : NotStored s e k → l'.raws k = l.raws k := by
      intro hk
      have hstores := ingestItems_stores (t := 0) hitems (Nat.zero_le _) fun x _ _ =>
        over_prepareItem e _ j x
      rw [hraws]
      refine hstores.other k fun x hx => ?_
      rw [habove] at hx
      obtain ⟨hx, hskip⟩ := List.mem_filter.mp hx
      rw [remoteKey_pa]
      refine hk x (mem_of_mem_pageOf hx) ?_
      simpa [playerAuctionsOrderSync] using hskip
    have hflow := ingestItems_flow hitems
    rw [habove] at hflow
    obtain ⟨hcaughtUp, hpgFirst, -, hlast, -⟩ := hflow
    change pg.first = l.first.or _ at hpgFirst
    replace hlast := hlast rfl
    -- the first item of the run is the newest order
    have hnewest : pageOf paPageSize j (s.needed e) ≠ [] →
        pg.first = (s.needed e).head?.map (fun o => (paKey o, o.createTime)) ∧
          ∀ o, (s.needed e).head? = some o → paKey o ≠ "" := by
      intro hsome
      by_cases hzero : j = 0
      · subst hzero
        have hhead : (pageOf paPageSize 0 (s.needed e)).head? = (s.needed e).head? := by
          rw [pageOf, Nat.zero_mul, List.drop_zero, List.head?_take, if_neg (by decide)]
        refine ⟨?_, fun o ho => ?_⟩
        · rw [hpgFirst, hfirst, if_pos rfl, hhead]
          simp only [remoteKey_pa]
          rfl
        · rw [← hhead] at ho
          have hmem := List.mem_of_mem_head? ho
          rw [← habove] at hmem
          rw [show paKey o = remoteKey (playerAuctionsOrderSync e.maxPages) o from
            (remoteKey_pa o).symm]
          exact ingestItems_key_ne hitems hmem
      · refine ⟨?_, hid hzero⟩
        rw [hpgFirst, hfirst, if_neg hzero]
        obtain ⟨o, ho⟩ := head?_of_pageOf hsome
        rw [ho]
        rfl
    obtain ⟨hmode', hpage', -⟩ := advancePage_keys cp pg next
      (l.beforeFetch ((e.over (s.feedAfter e)).pause j)).now
    have hmark' : BookmarkFrom s e l'.checkpoint.lastSeenRemoteId := by
      rw [hcheckpoint]
      split
      · show BookmarkFrom s e cp.lastSeenRemoteId
        rw [hcp]
        exact hmark
      show BookmarkFrom s e (advancePage cp pg next _).lastSeenRemoteId
      rw [advancePage]
      rcases hpgLast : pg.last with - | last
      · show BookmarkFrom s e cp.lastSeenRemoteId
        rw [hcp]
        exact hmark
      -- a page that moves the bookmark has something above it
      have hsome : pageOf paPageSize j (s.needed e) ≠ [] := fun hnil => by
        rw [hlast hnil] at hpgLast
        cases hpgLast
      obtain ⟨hnew, hne⟩ := hnewest hsome
      obtain ⟨o, ho⟩ := head?_of_pageOf hsome
      refine .inr ⟨o, ho, hne o ho, ?_⟩
      dsimp only
      rw [if_pos hcpMode, hnew, ho]
      rfl
    rw [fetchPages_read start calls hfetch hempty hpg]
    by_cases hstop : (l'.parseFailedAny || caughtUp || next == "") = true
    · rw [if_pos hstop, (finish_fields ..).1, (finish_bookmark ..).1]
      exact ⟨hraw, hmark'⟩
    rw [if_neg hstop]
    by_cases hlimit : pageLimitReached (playerAuctionsOrderSync e.maxPages) l'.pagesFetched = true
    · rw [if_pos hlimit, (finish_fields ..).1, (finish_bookmark ..).1]
      exact ⟨hraw, hmark'⟩
    rw [if_neg hlimit]
    simp only [Bool.or_eq_true, not_or, Bool.not_eq_true, beq_eq_false_iff_ne] at hstop
    obtain ⟨⟨hclean, hgo⟩, hnext⟩ := hstop
    obtain ⟨hlong, hcpPage⟩ := hmore hnext
    -- no item of the page was the bookmark, so all of it was needed
    have hread' : (j + 1) * paPageSize ≤ (s.needed e).length := by
      refine (not_stop_take_iff (l := s.feedAfter e) (Nat.le_of_lt hlong)).mp fun x hx => ?_
      rw [← take_append_pageOf] at hx
      rcases List.mem_append.mp hx with hx | hx
      · exact (not_stop_take_iff (hread.trans (above_length_le ..))).mpr hread x hx
      · rw [hcaught, hcaughtUp, Bool.false_or, List.any_eq_false] at hgo
        exact Bool.not_eq_true _ ▸ hgo x hx
    have hsome : pageOf paPageSize j (s.needed e) ≠ [] := by
      rw [Ne, pageOf_eq_nil_iff (by decide)]
      rw [Nat.succ_mul] at hread'
      have : 0 < paPageSize := by decide
      omega
    obtain ⟨hnew, hne⟩ := hnewest hsome
    have hcheckpoint' : l'.checkpoint = advancePage cp pg next
        (l.beforeFetch ((e.over (s.feedAfter e)).pause j)).now := by
      refine hcheckpoint.trans (if_neg ?_)
      rw [← hflag, hclean]
      exact Bool.false_ne_true
    obtain ⟨hkeep, hbook⟩ := ih (j := j + 1) (by rw [hcheckpoint', hmode', hcpMode])
      (by rw [hcheckpoint', hpage', hcpPage]; rfl) hread' (by rw [hfirst', hnew]; rfl)
      (fun _ => hne) hmark'
    exact ⟨fun hk => (hkeep hk).trans (hraw hk), hbook⟩

/-- **One run**: the rows it leaves alone, and where it leaves the bookmark. -/
theorem paStep_reads (hmode : s.db.start.mode = .incremental) (k : String) :
    (NotStored s e k → (paStep s e).db.raws k = s.db.raws k) ∧
      BookmarkFrom s e (paStep s e).bookmark := by
  have hrows := runSync_rows (playerAuctionsOrderSync e.maxPages) (e.over (s.feedAfter e))
    noReconcile s.db
  suffices hloop : (NotStored s e k → (fetchLoop (playerAuctionsOrderSync e.maxPages)
        (e.over (s.feedAfter e)) (startLoop s.db .incremental)).2.raws k = s.db.raws k) ∧
      BookmarkFrom s e (fetchLoop (playerAuctionsOrderSync e.maxPages) (e.over (s.feedAfter e))
        (startLoop s.db .incremental)).2.checkpoint.lastSeenRemoteId by
    rw [← hrows.1, ← hrows.2] at hloop
    exact hloop
  unfold fetchLoop
  split
  · exact ⟨fun _ => rfl, .inl rfl⟩
  · exact fetchPages_reads (l := startLoop s.db .incremental) (j := 0) hmode rfl hmode rfl
      (by rw [Nat.zero_mul]; exact Nat.zero_le _) rfl (fun h => absurd rfl h) (.inl rfl)

/-- The feed after a run. -/
theorem paStep_feed (s : PaState δ) (e : PaRun δ) :
    (paStep s e).newer ++ (paStep s e).older = s.feedAfter e :=
  List.append_assoc ..

/-- **What is above the bookmark after a run**: what the run needed, or nothing. -/
theorem above_paStep (hmode : s.db.start.mode = .incremental) :
    above (atBookmark (paStep s e).bookmark) (s.feedAfter e) = s.needed e ∨
      above (atBookmark (paStep s e).bookmark) (s.feedAfter e) = [] := by
  rcases (paStep_reads (e := e) hmode "").2 with hsame | ⟨o, ho, hne, hnew⟩
  · left
    rw [hsame]
    rfl
  · right
    -- the feed begins with the new bookmark
    obtain ⟨rest, hneeded⟩ : ∃ rest, s.needed e = o :: rest := by
      rcases hneeded : s.needed e with - | ⟨o', rest⟩
      · rw [hneeded] at ho
        cases ho
      · rw [hneeded] at ho
        cases ho
        exact ⟨rest, rfl⟩
    obtain ⟨feed, hfeed⟩ : ∃ feed, s.feedAfter e = o :: feed := by
      obtain ⟨after, hafter⟩ : s.needed e <+: s.feedAfter e := List.takeWhile_prefix _
      rw [hneeded] at hafter
      exact ⟨_, hafter.symm⟩
    rw [hfeed, hnew, above_cons_of_stop]
    simp [atBookmark, hne]

/-! ### Statuses that change -/

variable {t : PaState δ} {f : StatusRun δ}

@[simp] theorem paKey_restated (status : String → Option String) (o : PaOrder) :
    paKey (o.restated status) = paKey o := rfl

@[simp] theorem bookmark_restated (s : PaState δ) (status : String → Option String) :
    (s.restated status).bookmark = s.bookmark := rfl

theorem above_map_restated (status : String → Option String) (bookmark : String)
    (feed : List PaOrder) :
    above (atBookmark bookmark) (feed.map (PaOrder.restated status))
      = (above (atBookmark bookmark) feed).map (PaOrder.restated status) := by
  unfold above
  rw [List.takeWhile_map]
  rfl

theorem feed_restated (s : PaState δ) (status : String → Option String) :
    (s.restated status).newer ++ (s.restated status).older
      = (s.newer ++ s.older).map (PaOrder.restated status) :=
  (List.map_append ..).symm

theorem aboveBookmark_restated (s : PaState δ) (status : String → Option String) (k : String) :
    AboveBookmark (s.restated status) k ↔ AboveBookmark s k := by
  unfold AboveBookmark
  rw [bookmark_restated, feed_restated, above_map_restated]
  simp only [List.mem_map, exists_exists_and_eq_and, paKey_restated]

theorem onFeed_restated (s : PaState δ) (status : String → Option String) (k : String) :
    OnFeed (s.restated status) k ↔ OnFeed s k := by
  unfold OnFeed
  rw [feed_restated]
  simp only [List.mem_map, exists_exists_and_eq_and, paKey_restated]

theorem onFeed_step (h : OnFeed s k) (f : StatusRun δ) : OnFeed (statusStep s f) k := by
  obtain ⟨o, ho, hkey⟩ := (onFeed_restated s f.status k).mpr h
  unfold OnFeed statusStep
  rw [paStep_feed]
  exact ⟨o, List.mem_append_right _ ho, hkey⟩

/-- An order of the feed is none of those that join it. -/
theorem arrival_ne (h : OnFeed s k) (hdistinct : Distinct s e) : ∀ o ∈ e.arrivals, paKey o ≠ k := by
  obtain ⟨o, ho, hkey⟩ := h
  intro x hx heq
  have hnodup := hdistinct.1
  unfold PaState.feedAfter at hnodup
  rw [List.map_append, List.nodup_append] at hnodup
  exact hnodup.2.2 (paKey x) (List.mem_map_of_mem hx) (paKey o) (List.mem_map_of_mem ho)
    (heq.trans hkey.symm)

/-- **What is not above the bookmark stays below**, and is not ingested. -/
theorem below_step (hmode : s.db.start.mode = .incremental) (hfeed : OnFeed s k)
    (hdistinct : Distinct (s.restated f.status) f.run) (hbelow : ¬AboveBookmark s k) :
    ¬AboveBookmark (statusStep s f) k ∧ (statusStep s f).db.raws k = s.db.raws k := by
  have hneeded : ∀ o ∈ (s.restated f.status).needed f.run, paKey o ≠ k := by
    intro o ho
    rw [above_arrivals hdistinct.2] at ho
    rcases List.mem_append.mp ho with ho | ho
    · exact arrival_ne ((onFeed_restated ..).mpr hfeed) hdistinct o ho
    · exact fun heq => hbelow ((aboveBookmark_restated s f.status k).mp ⟨o, ho, heq⟩)
  refine ⟨?_, (paStep_reads (s := s.restated f.status) hmode k).1 fun o ho _ => hneeded o ho⟩
  rintro ⟨o, ho, hkey⟩
  unfold statusStep at ho
  rw [paStep_feed] at ho
  rcases above_paStep (s := s.restated f.status) (e := f.run) hmode with hsame | hnone
  · rw [hsame] at ho
    exact hneeded o ho hkey
  · rw [hnone] at ho
    cases ho

/-- **What is above the bookmark** is ingested, or stays above it; a run that reads through
ingests it. -/
theorem above_step (hmode : s.db.start.mode = .incremental)
    (hkeeps : KeepsOrders (s.restated f.status) f.run) (hsold : Sold k s f)
    (habove : AboveBookmark s k) :
    (Ingested (statusStep s f) k ∨ AboveBookmark (statusStep s f) k) ∧
      (ReadsThrough (s.restated f.status) f.run → Ingested (statusStep s f) k) := by
  obtain ⟨hdistinct, hcond⟩ := hkeeps
  obtain ⟨o, ho, hkey⟩ := (aboveBookmark_restated s f.status k).mpr habove
  have hneeded : o ∈ (s.restated f.status).needed f.run := by
    rw [above_arrivals hdistinct.2]
    exact List.mem_append_right _ ho
  have hread : ReadsThrough (s.restated f.status) f.run → Ingested (statusStep s f) k := by
    intro hreads
    rcases settled_readsThrough (s := s.restated f.status) hmode hdistinct hreads o hneeded with
      hskip | ⟨raw, hraw⟩
    · exact absurd hskip (hsold o (mem_of_mem_above hneeded) hkey)
    · exact ⟨raw, by rw [← hkey]; exact hraw⟩
  refine ⟨?_, hread⟩
  rcases hcond with hheld | hreads
  · right
    refine ⟨o, ?_, hkey⟩
    unfold statusStep
    rw [paStep_feed, bookmark_heldBack (s := s.restated f.status) hmode hdistinct hheld]
    exact hneeded
  · exact .inl (hread hreads)

/-- What is stored stays. -/
theorem ingested_step (hfeed : OnFeed s k) (h : Ingested s k) (f : StatusRun δ) :
    Ingested (statusStep s f) k := by
  obtain ⟨o, -, rfl⟩ := hfeed
  -- the same order in a status that is not skipped
  have hplain : Settled s.db { o with status := "" } := .inr h
  rcases settled_step (s.restated f.status) f.run hplain with hskip | hstored
  · exact absurd hskip (show "" ∉ paSkipStatuses by decide)
  · exact hstored

/-! ### Whole histories -/

theorem mode_statusStep (s : PaState δ) (f : StatusRun δ) (hmode : s.db.start.mode = .incremental) :
    (statusStep s f).db.start.mode = .incremental :=
  mode_step (s := s.restated f.status) hmode

/-- What is only ever found in a status that is skipped is not stored. -/
theorem not_stored_of_skipped {fs : List (StatusRun δ)} (hmode : s.db.start.mode = .incremental)
    (hnew : s.db.raws k = none) (h : Along statusStep (Skipped k) s fs) :
    (run statusStep s fs).db.raws k = none ∧
      (run statusStep s fs).db.start.mode = .incremental := by
  have hinv := always_of_along
    (I := fun s : PaState δ => s.db.raws k = none ∧ s.db.start.mode = .incremental)
    (fun s f hs hskip => by
      refine ⟨?_, mode_statusStep s f hs.2⟩
      refine ((paStep_reads (s := s.restated f.status) hs.2 k).1 ?_).trans hs.1
      exact fun o ho hstatus heq => hstatus (hskip o (mem_of_mem_above ho) heq))
    ⟨hnew, hmode⟩ h
  exact hinv.last

/-- What is not above the bookmark is never ingested. -/
theorem never_ingested {fs : List (StatusRun δ)} (hmode : s.db.start.mode = .incremental)
    (hfeed : OnFeed s k) (hnew : s.db.raws k = none) (hbelow : ¬AboveBookmark s k)
    (h : Along statusStep (fun s f => Distinct (s.restated f.status) f.run) s fs) :
    ¬Ingested (run statusStep s fs) k := by
  have hinv := always_of_along
    (I := fun s : PaState δ => s.db.raws k = none ∧ s.db.start.mode = .incremental ∧
      OnFeed s k ∧ ¬AboveBookmark s k)
    (fun s f hs hdistinct => by
      obtain ⟨hnew, hmode, hfeed, hbelow⟩ := hs
      obtain ⟨hbelow', hraw⟩ := below_step hmode hfeed hdistinct hbelow
      exact ⟨hraw.trans hnew, mode_statusStep s f hmode, onFeed_step hfeed f, hbelow'⟩)
    ⟨hnew, hmode, hfeed, hbelow⟩ h
  rintro ⟨raw, hraw⟩
  rw [hinv.last.1] at hraw
  cases hraw

/-- What is above the bookmark is ingested by the first run that reads through. -/
theorem ingested_of_above {fs : List (StatusRun δ)} (hmode : s.db.start.mode = .incremental)
    (hfeed : OnFeed s k) (habove : Ingested s k ∨ AboveBookmark s k)
    (hsold : Along statusStep (Sold k) s fs)
    (hkeeps : Along statusStep (fun s f => KeepsOrders (s.restated f.status) f.run) s fs)
    (hreads : Ingested s k ∨
      ¬Along statusStep (fun s f => ¬ReadsThrough (s.restated f.status) f.run) s fs) :
    Ingested (run statusStep s fs) k := by
  induction fs generalizing s with
  | nil =>
    rcases hreads with hstored | hreads
    · exact hstored
    · exact absurd trivial hreads
  | cons f fs ih =>
    have hmode' := mode_statusStep s f hmode
    have hfeed' := onFeed_step hfeed f
    by_cases hstored : Ingested s k
    · have hstored' := ingested_step hfeed hstored f
      exact ih hmode' hfeed' (.inl hstored') hsold.2 hkeeps.2 (.inl hstored')
    obtain ⟨hstep, hread⟩ := above_step hmode hkeeps.1 hsold.1 (habove.resolve_left hstored)
    refine ih hmode' hfeed' hstep hsold.2 hkeeps.2 ?_
    -- either this run reads through or a later one does
    by_cases hthis : ReadsThrough (s.restated f.status) f.run
    · exact .inl (hread hthis)
    · exact .inr fun hlater => (hreads.resolve_left hstored) ⟨hthis, hlater⟩

/-- **When an order is ingested after all.**  An order is found in a status that is skipped, and
then in one that is not; the later runs keep the condition of the bookmark, and one of them reads
through.  Then some run ingests the order exactly if it still stood above the bookmark when its
status changed. -/
theorem skipped_order_ingested_iff (db : SyncDb PaOrder δ) (feed : List PaOrder) (k : String)
    (before after : List (StatusRun δ))
    (hmode : (db.checkpoint .incremental).mode = .incremental) (hnew : db.raws k = none)
    (hskipped : Along statusStep (Skipped k) (PaState.init db feed) before)
    (hfeed : OnFeed (run statusStep (PaState.init db feed) before) k)
    (hsold : Along statusStep (Sold k) (run statusStep (PaState.init db feed) before) after)
    (hkeeps : Along statusStep (fun s f => KeepsOrders (s.restated f.status) f.run)
      (run statusStep (PaState.init db feed) before) after)
    (hreads : ¬Along statusStep (fun s f => ¬ReadsThrough (s.restated f.status) f.run)
      (run statusStep (PaState.init db feed) before) after) :
    Ingested (run statusStep (run statusStep (PaState.init db feed) before) after) k ↔
      AboveBookmark (run statusStep (PaState.init db feed) before) k := by
  obtain ⟨hnone, hmode'⟩ := not_stored_of_skipped (s := PaState.init db feed) hmode hnew hskipped
  constructor
  · intro hstored
    by_contra hbelow
    have hdistinct := along_of_along (I := fun _ : PaState δ => True)
      (D := fun s f => Distinct (s.restated f.status) f.run)
      (fun _ _ _ _ => trivial) (fun s f _ hc => hc.1) trivial hkeeps
    exact never_ingested hmode' hfeed hnone hbelow hdistinct hstored
  · intro habove
    exact ingested_of_above hmode' hfeed (.inr habove) hsold hkeeps (.inr hreads)

/-- A run over the feed as it is. -/
def quietRun : PaRun Unit where
  arrivals := []
  session := applyingSession

/-- Order 1 joins the feed, not paid yet; the request of the run fails, or does not. -/
def pendingRun (fails : Bool) : StatusRun Unit where
  run := {
    arrivals := [{ orderId := "1", status := "Pending Payment" }]
    fails := fun _ => if fails then some "timeout" else none
    session := applyingSession }

/-- Order 1 is paid, and the run meets no failure. -/
def paidRun : StatusRun Unit where
  status k := if k = "1" then some "Completed" else none
  run := quietRun

/-- The state when order 1 is paid. -/
def whenPaid (fails : Bool) : PaState Unit :=
  run statusStep (PaState.init freshDb []) [pendingRun fails]

theorem paidRun_reads (fails : Bool) :
    ReadsThrough ((whenPaid fails).restated paidRun.status) paidRun.run := by
  have hshort : (((whenPaid fails).restated paidRun.status).needed paidRun.run).length ≤ 1 := by
    cases fails <;> decide
  refine ⟨by cases fails <;> decide, fun j hj => ?_⟩
  have hzero : j = 0 := by
    have : j * 50 < 1 := Nat.lt_of_lt_of_le hj hshort
    omega
  subst hzero
  refine ⟨rfl, by decide, (fun limit h => nomatch h), fun h => ?_⟩
  have : (0 + 1) * 50 < 1 := Nat.lt_of_lt_of_le h hshort
  omega

/-- The run of the unpaid order fails, so the order is still above the bookmark once it is paid. -/
theorem skipped_order_ingested_at_failed :
    Ingested (run statusStep (run statusStep (PaState.init freshDb []) [pendingRun true])
        [paidRun]) "1" ↔
      AboveBookmark (run statusStep (PaState.init freshDb []) [pendingRun true]) "1" :=
  skipped_order_ingested_iff freshDb [] "1" [pendingRun true] [paidRun] rfl rfl
    ⟨by unfold Skipped; decide, trivial⟩ (by unfold OnFeed; decide)
    ⟨by unfold Sold; decide, trivial⟩
    ⟨⟨by unfold Distinct; decide, .inr (paidRun_reads true)⟩, trivial⟩
    (fun h => h.1 (paidRun_reads true))

/-- The unpaid order is skipped and becomes the bookmark; the run after the payment stops there. -/
theorem skipped_order_ingested_fails :
    ¬∀ before after : List (StatusRun Unit),
      Along statusStep (Skipped "1") (PaState.init freshDb []) before →
      OnFeed (run statusStep (PaState.init freshDb []) before) "1" →
      Along statusStep (Sold "1") (run statusStep (PaState.init freshDb []) before) after →
      Along statusStep (fun s f => KeepsOrders (s.restated f.status) f.run)
        (run statusStep (PaState.init freshDb []) before) after →
      ¬Along statusStep (fun s f => ¬ReadsThrough (s.restated f.status) f.run)
        (run statusStep (PaState.init freshDb []) before) after →
      Ingested (run statusStep (run statusStep (PaState.init freshDb []) before) after) "1" := by
  intro h
  obtain ⟨raw, hraw⟩ := h [pendingRun false] [paidRun]
    ⟨by unfold Skipped; decide, trivial⟩ (by unfold OnFeed; decide)
    ⟨by unfold Sold; decide, trivial⟩
    ⟨⟨by unfold Distinct; decide, .inr (paidRun_reads false)⟩, trivial⟩
    (fun h => h.1 (paidRun_reads false))
  have hnone : (run statusStep (run statusStep (PaState.init freshDb []) [pendingRun false])
      [paidRun]).db.raws "1" = none := by
    apply Option.isNone_iff_eq_none.mp
    decide
  rw [hnone] at hraw
  cases hraw

end SkippedOrders

end Sda.Sync
