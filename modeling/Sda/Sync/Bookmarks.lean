/-
Sda/Sync/Bookmarks.lean

Runs of the incremental order sync of PlayerAuctions over a growing feed.

New orders join the feed at the top; a run reads from the top down to the
bookmarked order.  The bookmark moves to the newest order after every page, so a
run that stops between two pages leaves older orders below it.

An order is safe when it is stored (or of a status that is never stored) or
still above the bookmark.

Main result: `bookmark_lossless`, the runs that keep every newer order safe.
-/
import Sda.Lib.Run
import Sda.Sync.Blocking
import Sda.Sync.Updates

namespace Sda.Sync

section Bookmarks

variable {δ : Type}

/-- The id an order is stored under. -/
abbrev paKey (o : PaOrder) : String :=
  stripText o.orderId

/-- Is it the bookmarked order? -/
def atBookmark (bookmark : String) (o : PaOrder) : Bool :=
  bookmark != "" && paKey o == bookmark

/-- The rows of the account and the remote feed: the orders newer than the
bookmark a history starts from, and the others. -/
structure PaState (δ : Type) where
  db : SyncDb PaOrder δ
  newer : List PaOrder
  older : List PaOrder

/-- The orders that join the feed, then a run: its page limit, the messages of
its requests that fail, and the rest of what it meets. -/
structure PaRun (δ : Type) where
  arrivals : List PaOrder
  maxPages : Option Nat := none
  fails : Nat → Option String := fun _ => none
  session : Session PaOrder δ

/-- `prepare_item` of PlayerAuctions returns the item. -/
def PaRun.over (e : PaRun δ) (feed : List PaOrder) : Session PaOrder δ :=
  { e.session with
    fetchPage := fun n => paFetchPage (paServeOr (e.fails n) feed)
    prepareItem := fun _ => .item }

def PaState.feedAfter (s : PaState δ) (e : PaRun δ) : List PaOrder :=
  e.arrivals ++ (s.newer ++ s.older)

def paStep (s : PaState δ) (e : PaRun δ) : PaState δ where
  db := runSync (playerAuctionsOrderSync e.maxPages) (e.over (s.feedAfter e)) noReconcile
    .incremental s.db
  newer := e.arrivals ++ s.newer
  older := s.older

/-- The bookmark of the next run. -/
def PaState.bookmark (s : PaState δ) : String :=
  s.db.start.lastSeenRemoteId

/-- A history starts at a feed and its bookmark. -/
def PaState.init (db : SyncDb PaOrder δ) (feed : List PaOrder) : PaState δ where
  db
  newer := above (atBookmark db.start.lastSeenRemoteId) feed
  older := feed.dropWhile fun o => !atBookmark db.start.lastSeenRemoteId o

/-- Stored, or never to be stored. -/
def Settled (db : SyncDb PaOrder δ) (o : PaOrder) : Prop :=
  o.status ∈ paSkipStatuses ∨ ∃ raw, db.raws (paKey o) = some raw

/-- **No order is lost**: every newer one is settled or still above the
bookmark. -/
def PaState.Lossless (s : PaState δ) : Prop :=
  ∀ o ∈ s.newer, Settled s.db o ∨ o ∈ above (atBookmark s.bookmark) (s.newer ++ s.older)

/-- What the run has to read. -/
def PaState.needed (s : PaState δ) (e : PaRun δ) : List PaOrder :=
  above (atBookmark s.bookmark) (s.feedAfter e)

/-- The ids of the feed are distinct, and the bookmark is not the id of a new
order. -/
def Distinct (s : PaState δ) (e : PaRun δ) : Prop :=
  ((s.feedAfter e).map paKey).Nodup ∧ ∀ o ∈ e.arrivals, paKey o ≠ s.bookmark

/-- The run ends before a page moves the bookmark: it makes no call, it has no
valid page limit, its first request fails, or its first page has a needed order
without an id or with a payload that blocks. -/
def HeldBack (s : PaState δ) (e : PaRun δ) : Prop :=
  e.session.calls = 0 ∨ e.maxPages = some 0 ∨ e.fails 0 ≠ none ∨
    ∃ o ∈ (s.needed e).take paPageSize, paKey o = "" ∨
      Blocks (playerAuctionsOrderSync e.maxPages) (e.over (s.feedAfter e)) 0 s.db.raws o

/-- The run reads what it needs: every needed order has an id, no request for a
page with needed orders fails, all of them are within the page limit and the
life of the worker, and no needed order blocks on a page before the last of
these. -/
def ReadsThrough (s : PaState δ) (e : PaRun δ) : Prop :=
  (∀ o ∈ s.needed e, paKey o ≠ "") ∧
    ∀ k, k * paPageSize < (s.needed e).length →
      e.fails k = none ∧ k < e.session.calls ∧ (∀ limit, e.maxPages = some limit → k < limit) ∧
        ((k + 1) * paPageSize < (s.needed e).length → ∀ o ∈ pageOf paPageSize k (s.needed e),
          Passes (playerAuctionsOrderSync e.maxPages) (e.over (s.feedAfter e)) k s.db.raws o)

/-- **The condition on a run.** -/
def KeepsOrders (s : PaState δ) (e : PaRun δ) : Prop :=
  Distinct s e ∧ (HeldBack s e ∨ ReadsThrough s e)

/-! ### One run -/

variable {s : PaState δ} {e : PaRun δ} {feed : List PaOrder} {maxPages : Option Nat}

@[simp] theorem remoteKey_pa (o : PaOrder) :
    remoteKey (playerAuctionsOrderSync maxPages) o = paKey o :=
  stripText_stripText _

theorem over_prepareItem (e : PaRun δ) (feed : List PaOrder) (n : Nat) (o : PaOrder) :
    (e.over feed).prepareItem n o ≠ .skipItem :=
  nofun

/-- The stop of a run is its bookmark. -/
theorem seen_pa {start : SyncCheckpoint} (hmode : start.mode = .incremental)
    (stop : Option Nat) :
    seen (playerAuctionsOrderSync maxPages) start stop = atBookmark start.lastSeenRemoteId := by
  funext o
  rw [seen, hmode]
  rfl

/-- What a run stores stays. -/
theorem settled_step (s : PaState δ) (e : PaRun δ) {o : PaOrder} (h : Settled s.db o) :
    Settled (paStep s e).db o := by
  rcases h with hskip | ⟨raw, hraw⟩
  · exact .inl hskip
  right
  have hrows := (runSync_rows (playerAuctionsOrderSync e.maxPages) (e.over (s.feedAfter e))
    noReconcile s.db).1
  have hkeep : SeenSince 0 (fetchLoop (playerAuctionsOrderSync e.maxPages)
      (e.over (s.feedAfter e)) (startLoop s.db .incremental)).2.raws (paKey o) := by
    unfold fetchLoop
    split
    · exact ⟨raw, hraw, Nat.zero_le _⟩
    · obtain ⟨items, hstores⟩ := fetchPages_someStores (t := 0)
        (playerAuctionsOrderSync e.maxPages) (e.over (s.feedAfter e))
        (over_prepareItem e _) (startLoop s.db .incremental).checkpoint
        (e.over (s.feedAfter e)).calls 0 (startLoop s.db .incremental) (Nat.zero_le _)
      exact hstores.keeps _ ⟨raw, hraw, Nat.zero_le _⟩
  obtain ⟨raw', hraw', -⟩ := hkeep
  refine ⟨raw', ?_⟩
  show (runSync _ _ _ _ _).raws _ = _
  rw [hrows]
  exact hraw'

/-- A request for a page that is not empty. -/
theorem paFetchPage_page {cp : SyncCheckpoint} {k : Nat} (hmode : cp.mode = .incremental)
    (hpage : cp.incrementalPage.getD 1 = k + 1) (hne : pageOf paPageSize k feed ≠ []) :
    ∃ next cp', paFetchPage (paServeOr none feed) cp
        = (.ok (pageOf paPageSize k feed, next), cp') ∧
      cp'.lastSeenRemoteId = cp.lastSeenRemoteId ∧ cp'.mode = .incremental ∧
      ((k + 1) * paPageSize < feed.length →
        next ≠ "" ∧ cp'.incrementalPage = some (k + 1 + 1)) := by
  rw [paFetchPage_serve feed hmode hpage, numberedPage, if_neg (by simpa using hne)]
  refine ⟨_, _, rfl, ?_, ?_, fun hmore => ?_⟩
  · rw [trackPage_lastSeenRemoteId]
  · rw [trackPage_mode, hmode]
  · rw [if_pos ((succ_lt_pageCount_iff (by decide) k _).mpr hmore), SyncCheckpoint.trackPage,
      if_pos ⟨hmode, natText_ne_empty _⟩]
    exact ⟨natText_ne_empty _, rfl⟩

/-- A page of the feed, as what the run needs of it. -/
theorem above_pageOf {stop : PaOrder → Bool} {k : Nat}
    (hk : k * paPageSize ≤ (above stop feed).length) :
    above stop (pageOf paPageSize k feed) = pageOf paPageSize k (above stop feed) := by
  rw [pageOf, above_take, above_drop hk]
  rfl

/-- **A run that is held back** keeps the bookmark. -/
theorem bookmark_heldBack (hmode : s.db.start.mode = .incremental) (hdistinct : Distinct s e)
    (hheld : HeldBack s e) : (paStep s e).bookmark = s.bookmark := by
  have hrows := (runSync_rows (playerAuctionsOrderSync e.maxPages) (e.over (s.feedAfter e))
    noReconcile s.db).2
  suffices hloop : (fetchLoop (playerAuctionsOrderSync e.maxPages) (e.over (s.feedAfter e))
      (startLoop s.db .incremental)).2.checkpoint.lastSeenRemoteId = s.bookmark by
    rw [← hrows] at hloop
    exact hloop
  unfold fetchLoop
  by_cases hpages : (playerAuctionsOrderSync e.maxPages).maxPages = some 0
  · rw [if_pos hpages]
    rfl
  rw [if_neg hpages]
  rcases hcalls : (e.over (s.feedAfter e)).calls with - | calls
  · rfl
  rcases hfail : e.fails 0 with - | message
  case some =>
    obtain ⟨exc, hfetch⟩ := paFetchPage_failed message (s.feedAfter e) hmode
    rw [← hfail] at hfetch
    rw [fetchPages_error (l := startLoop s.db .incremental) _ calls hfetch]
    rfl
  obtain ⟨o, ho, hbad⟩ : ∃ o ∈ (s.needed e).take paPageSize, paKey o = "" ∨
      Blocks (playerAuctionsOrderSync e.maxPages) (e.over (s.feedAfter e)) 0 s.db.raws o := by
    rcases hheld with hcalls' | hpages' | hfail' | hbad
    · exact absurd (hcalls.symm.trans hcalls') (Nat.succ_ne_zero _)
    · exact absurd hpages' hpages
    · exact absurd hfail hfail'
    · exact hbad
  -- the first page, and what is above the bookmark on it
  have habove : above (atBookmark s.bookmark) (pageOf paPageSize 0 (s.feedAfter e))
      = (s.needed e).take paPageSize := by
    rw [above_pageOf (by rw [Nat.zero_mul]; exact Nat.zero_le _), pageOf, Nat.zero_mul,
      List.drop_zero]
    rfl
  have hne : pageOf paPageSize 0 (s.feedAfter e) ≠ [] := by
    intro hnil
    rw [hnil] at habove
    rw [← habove] at ho
    cases ho
  obtain ⟨next, cp, hfetch, hcp, -, -⟩ :=
    paFetchPage_page (k := 0) hmode rfl hne
  rw [← hfail] at hfetch
  have hfetch' : (e.over (s.feedAfter e)).fetchPage 0 (startLoop s.db .incremental).checkpoint
      = (.ok (pageOf paPageSize 0 (s.feedAfter e), next), cp) := hfetch
  rcases hpage : readPage (playerAuctionsOrderSync e.maxPages) (e.over (s.feedAfter e))
      (startLoop s.db .incremental).checkpoint 0 (pageOf paPageSize 0 (s.feedAfter e)) next
      { (startLoop s.db .incremental).beforeFetch ((e.over (s.feedAfter e)).pause 0) with
        checkpoint := cp } with exc | ⟨l', caughtUp⟩
  · rw [fetchPages_rolledBack calls hfetch' hne hpage]
    exact hcp
  · obtain ⟨pg, hitems, -, -, hflag, -, hcheckpoint⟩ := readPage_fields hpage
    rw [seen_pa (show (startLoop s.db .incremental).checkpoint.mode = _ from hmode)] at hitems
    change ingestItems _ _ (atBookmark s.bookmark) _ _ _ _ = _ at hitems
    rw [← habove] at ho
    have hblocks := hbad.resolve_left fun hid =>
      ingestItems_key_ne hitems ho ((remoteKey_pa o).trans hid)
    have hkeys : ((above (atBookmark s.bookmark) (pageOf paPageSize 0 (s.feedAfter e))).map
        (remoteKey (playerAuctionsOrderSync e.maxPages))).Nodup := by
      rw [List.map_congr_left fun x _ => remoteKey_pa x]
      refine hdistinct.1.sublist (List.Sublist.map _ ?_)
      exact (List.takeWhile_sublist _).trans
        ((List.take_sublist _ _).trans (List.drop_sublist _ _))
    have hfailed : pg.pageParseFailed = true :=
      ingestItems_blocks (show 1 < 5 by decide) hitems hkeys ho hblocks
    rw [hfailed, Bool.or_true] at hflag hcheckpoint
    rw [fetchPages_read _ calls hfetch' hne hpage, hflag]
    show (l'.finish next).2.checkpoint.lastSeenRemoteId = _
    rw [(finish_bookmark ..).1, hcheckpoint, if_pos rfl]
    exact hcp

/-- Only a list longer than what is dropped has a member left. -/
theorem lt_of_mem_drop {α : Type} {l : List α} {n : Nat} {a : α} (h : a ∈ l.drop n) :
    n < l.length := by
  have hpos := List.length_pos_of_mem h
  rw [List.length_drop] at hpos
  omega

/-- **The pages a run still has to read** are read, from page `k` on. -/
theorem readsThrough_from {l : Loop PaOrder δ} {start : SyncCheckpoint} {calls k : Nat}
    (hstart : start.mode = .incremental) (hbookmark : start.lastSeenRemoteId = s.bookmark)
    (hkeys : ((s.needed e).map paKey).Nodup) (hreads : ReadsThrough s e)
    (hcalls : k + calls = e.session.calls) (hmode : l.checkpoint.mode = .incremental)
    (hpage : l.checkpoint.incrementalPage.getD 1 = k + 1) (hfetched : l.pagesFetched = k)
    (hfailed : l.parseFailedAny = false)
    (hraws : ∀ o ∈ (s.needed e).drop (k * paPageSize), l.raws (paKey o) = s.db.raws (paKey o)) :
    ∀ o ∈ (s.needed e).drop (k * paPageSize), o.status ∈ paSkipStatuses ∨
      ∃ raw, (fetchPages (playerAuctionsOrderSync e.maxPages) (e.over (s.feedAfter e)) start calls k
        l).2.raws (paKey o) = some raw := by
  induction calls generalizing k l with
  | zero =>
    intro o ho
    have hlt : k * paPageSize < (s.needed e).length := lt_of_mem_drop ho
    exact absurd (hreads.2 k hlt).2.1 (by omega)
  | succ calls ih =>
    intro o ho
    have hlt : k * paPageSize < (s.needed e).length := lt_of_mem_drop ho
    obtain ⟨hfail, -, hlimit, hpasses⟩ := hreads.2 k hlt
    have hlen := above_length_le (atBookmark s.bookmark) (s.feedAfter e)
    change (s.needed e).length ≤ _ at hlen
    have hne : pageOf paPageSize k (s.feedAfter e) ≠ [] := by
      rw [Ne, pageOf_eq_nil_iff (by decide)]
      omega
    obtain ⟨next, cp, hfetch, -, hcpMode, hmore⟩ := paFetchPage_page hmode hpage hne
    rw [← hfail] at hfetch
    have habove : above (atBookmark s.bookmark) (pageOf paPageSize k (s.feedAfter e))
        = pageOf paPageSize k (s.needed e) := above_pageOf (Nat.le_of_lt hlt)
    have hseen : seen (playerAuctionsOrderSync e.maxPages) start
        (l.beforeFetch ((e.over (s.feedAfter e)).pause k)).stopTimestamp
          = atBookmark s.bookmark := by
      rw [seen_pa hstart, hbookmark]
    -- the page is read to its end, since its orders have ids
    obtain ⟨pg₀, hpg₀⟩ := ingestItems_ok (playerAuctionsOrderSync e.maxPages)
      (e.over (s.feedAfter e)) (atBookmark s.bookmark)
      (l.beforeFetch ((e.over (s.feedAfter e)).pause k)).now k
      (pageOf paPageSize k (s.feedAfter e))
      (fun x hx => by
        rw [remoteKey_pa]
        rw [habove] at hx
        exact hreads.1 x (mem_of_mem_pageOf hx))
      (fun x => .inl ⟨x, rfl⟩)
      { raws := l.raws, domain := l.domain, run := l.run, first := l.first }
    rw [← hseen] at hpg₀
    obtain ⟨l₁, caughtUp, hread⟩ := readPage_of_ok next
      (l := { l.beforeFetch ((e.over (s.feedAfter e)).pause k) with checkpoint := cp }) hpg₀
    have hkeep := fetchPages_read_stores calls (over_prepareItem e _) hfetch hne hread
    obtain ⟨pg, hitems, hcaught, hraws₁, hflag, hfetched₁, hcheckpoint⟩ := readPage_fields hread
    change ingestItems _ _ (seen _ _
      (l.beforeFetch ((e.over (s.feedAfter e)).pause k)).stopTimestamp) _ _ _ _ = _ at hitems
    rw [hseen] at hitems
    have hstores := ingestItems_stores (t := 0) hitems (Nat.zero_le _) fun x _ _ =>
      over_prepareItem e _ k x
    change Stores _ 0 _ l.raws pg.raws at hstores
    rw [habove, ← hraws₁] at hstores
    have hsplit := pageOf_append_drop paPageSize k (s.needed e)
    rw [← hsplit] at ho
    rcases List.mem_append.mp ho with ho | ho
    · -- an order of this page
      by_cases hskip : o.status ∈ paSkipStatuses
      · exact .inl hskip
      right
      have hmem :
          o ∈ kept (playerAuctionsOrderSync e.maxPages) (pageOf paPageSize k (s.needed e)) := by
        refine List.mem_filter.mpr ⟨ho, ?_⟩
        simpa [playerAuctionsOrderSync] using hskip
      obtain ⟨stored, hkeep⟩ := hkeep
      obtain ⟨raw, hraw, -⟩ := hkeep.keeps _ (hstores.stored o hmem)
      exact ⟨raw, by rwa [remoteKey_pa] at hraw⟩
    · -- an order of a later page: the run goes on
      have hlong : (k + 1) * paPageSize < (s.needed e).length := lt_of_mem_drop ho
      rw [← hsplit] at hraws
      have hkeys' := hkeys.sublist (List.Sublist.map paKey (List.drop_sublist (k * paPageSize) _))
      rw [← hsplit, List.map_append] at hkeys'
      have hmapKeys : ∀ xs : List PaOrder,
          xs.map (remoteKey (playerAuctionsOrderSync e.maxPages)) = xs.map paKey := fun xs =>
        List.map_congr_left fun x _ => remoteKey_pa x
      have hpageFailed : pg.pageParseFailed = false := by
        refine ingestItems_passes (show 1 < 5 by decide) hitems ?_ fun x hx => ?_
        · rw [habove, hmapKeys]
          exact (List.nodup_append.mp hkeys').1
        · rw [habove] at hx
          refine (passes_congr ?_).mp (hpasses hlong x hx)
          rw [remoteKey_pa]
          exact hraws x (List.mem_append_left _ hx)
      have hflags : (l.parseFailedAny || pg.pageParseFailed) = false := by
        rw [hfailed, hpageFailed]
        rfl
      replace hflag : l₁.parseFailedAny = false := hflag.trans hflags
      have hcaughtUp : caughtUp = false := by
        rw [hcaught, (ingestItems_flow hitems).1, Bool.false_or, List.any_eq_false]
        intro x hx
        rw [Bool.not_eq_true]
        refine not_stop_of_lt (l := (s.feedAfter e).drop (k * paPageSize)) ?_ hx
        rw [above_drop (Nat.le_of_lt hlt), List.length_drop]
        change _ < (s.needed e).length - _
        rw [Nat.succ_mul] at hlong
        omega
      obtain ⟨hnext, hcpPage⟩ := hmore (by omega)
      have hlimit' : pageLimitReached (playerAuctionsOrderSync e.maxPages) l₁.pagesFetched
          = false := by
        rw [hfetched₁]
        unfold pageLimitReached
        dsimp only [playerAuctionsOrderSync]
        rcases hmax : e.maxPages with - | limit
        · rfl
        · have := (hreads.2 (k + 1) hlong).2.2.1 limit hmax
          exact decide_eq_false (by change ¬limit ≤ l.pagesFetched + 1; omega)
      have hcontinue := fetchPages_read start calls hfetch hne hread
      rw [hflag, hcaughtUp, if_neg (by simpa using hnext), hlimit', if_neg Bool.false_ne_true]
        at hcontinue
      rw [hcontinue]
      obtain ⟨hmode₁, hpage₁, -⟩ := advancePage_keys cp pg next
        (l.beforeFetch ((e.over (s.feedAfter e)).pause k)).now
      have hcheckpoint₁ : l₁.checkpoint = advancePage cp pg next
          (l.beforeFetch ((e.over (s.feedAfter e)).pause k)).now := by
        refine hcheckpoint.trans (if_neg ?_)
        show ¬(l.parseFailedAny || pg.pageParseFailed) = true
        rw [hflags]
        exact Bool.false_ne_true
      refine ih (by omega) ?_ ?_ ?_ hflag (fun x hx => ?_) o ho
      · rw [hcheckpoint₁, hmode₁, hcpMode]
      · rw [hcheckpoint₁, hpage₁, hcpPage]
        rfl
      · rw [hfetched₁]
        exact congrArg (· + 1) hfetched
      · -- the orders still to be read have other ids
        refine (hstores.other _ fun y hy heq => ?_).trans (hraws x (List.mem_append_right _ hx))
        rw [remoteKey_pa] at heq
        exact (List.nodup_append.mp hkeys').2.2 _ (List.mem_map_of_mem (List.mem_of_mem_filter hy))
          _ (List.mem_map_of_mem hx) heq

/-- **A run that reads through** settles what it needs. -/
theorem settled_readsThrough (hmode : s.db.start.mode = .incremental) (hdistinct : Distinct s e)
    (hreads : ReadsThrough s e) : ∀ o ∈ s.needed e, Settled (paStep s e).db o := by
  intro o ho
  have hpos : 0 * paPageSize < (s.needed e).length := by
    rw [Nat.zero_mul]
    exact List.length_pos_of_mem ho
  have hpages : (playerAuctionsOrderSync e.maxPages).maxPages ≠ some 0 := fun hzero =>
    absurd ((hreads.2 0 hpos).2.2.1 0 hzero) (Nat.lt_irrefl 0)
  have hrows := (runSync_rows (playerAuctionsOrderSync e.maxPages) (e.over (s.feedAfter e))
    noReconcile s.db).1
  have hkeys : ((s.needed e).map paKey).Nodup :=
    hdistinct.1.sublist (List.Sublist.map paKey (List.takeWhile_sublist _))
  have hall := readsThrough_from (l := startLoop s.db .incremental) (k := 0)
    (show s.db.start.mode = _ from hmode) rfl hkeys hreads (Nat.zero_add e.session.calls) hmode rfl
    rfl rfl (fun _ _ => rfl) o
  rw [Nat.zero_mul, List.drop_zero] at hall
  rcases hall ho with hskip | ⟨raw, hraw⟩
  · exact .inl hskip
  · refine .inr ⟨raw, ?_⟩
    show (runSync _ _ _ _ _).raws _ = _
    rw [hrows, fetchLoop, if_neg hpages]
    exact hraw

/-! ### Whole runs -/

/-- A run keeps its checkpoint under its mode. -/
theorem mode_step (hmode : s.db.start.mode = .incremental) :
    (paStep s e).db.start.mode = .incremental := by
  have hrows := (runSync_rows (playerAuctionsOrderSync e.maxPages) (e.over (s.feedAfter e))
    noReconcile s.db).2
  show ((runSync _ _ _ _ _).checkpoint .incremental).mode = _
  rw [hrows]
  unfold fetchLoop
  split
  · exact hmode
  · rw [fetchPages_mode fun n cp => paFetchPage_mode ..]
    exact hmode

/-- Every order above the bookmark stays there when orders join the feed. -/
theorem above_arrivals (hnew : ∀ o ∈ e.arrivals, paKey o ≠ s.bookmark) :
    s.needed e = e.arrivals ++ above (atBookmark s.bookmark) (s.newer ++ s.older) := by
  rw [PaState.needed, PaState.feedAfter, above_append]
  intro o ho
  rw [atBookmark, beq_eq_false_iff_ne.mpr (hnew o ho), Bool.and_false]

/-- **One run** that meets the condition loses no order. -/
theorem lossless_step (hmode : s.db.start.mode = .incremental) (h : s.Lossless)
    (hkeeps : KeepsOrders s e) : (paStep s e).Lossless := by
  obtain ⟨hdistinct, hcond⟩ := hkeeps
  have hneeded := above_arrivals hdistinct.2
  -- a newer order is settled, or the run needs it
  have hsplit : ∀ o ∈ e.arrivals ++ s.newer, Settled s.db o ∨ o ∈ s.needed e := by
    intro o ho
    rw [hneeded]
    rcases List.mem_append.mp ho with ho | ho
    · exact .inr (List.mem_append_left _ ho)
    · exact (h o ho).imp_right (List.mem_append_right _)
  intro o ho
  rcases hsplit o ho with hsettled | ho'
  · exact .inl (settled_step s e hsettled)
  rcases hcond with hheld | hreads
  · right
    rw [bookmark_heldBack hmode hdistinct hheld]
    have hfeed : (paStep s e).newer ++ (paStep s e).older = s.feedAfter e :=
      List.append_assoc ..
    rw [hfeed]
    exact ho'
  · exact .inl (settled_readsThrough hmode hdistinct hreads o ho')

theorem lossless_init (db : SyncDb PaOrder δ) (feed : List PaOrder) :
    (PaState.init db feed).Lossless := by
  intro o ho
  right
  show o ∈ above (atBookmark db.start.lastSeenRemoteId) (List.takeWhile _ feed ++ _)
  rw [show (List.takeWhile (fun o => !atBookmark db.start.lastSeenRemoteId o) feed ++
    (PaState.init db feed).older) = feed from List.takeWhile_append_dropWhile]
  exact ho

/-- **No order is lost.**  From any rows and any feed, in every history of runs
that all meet the condition, every order newer than the bookmark the history
starts from is settled or still above the bookmark. -/
theorem bookmark_lossless (db : SyncDb PaOrder δ) (feed : List PaOrder) (es : List (PaRun δ))
    (hmode : (db.checkpoint .incremental).mode = .incremental)
    (h : Along paStep KeepsOrders (PaState.init db feed) es) :
    Always paStep PaState.Lossless (PaState.init db feed) es := by
  have hinv := always_of_along
    (I := fun s : PaState δ => s.Lossless ∧ s.db.start.mode = .incremental)
    (fun s e hs hc => ⟨lossless_step hs.2 hs.1 hc, mode_step hs.2⟩)
    ⟨lossless_init db feed, hmode⟩ h
  exact hinv.mono fun _ hs => hs.1

/-- A fresh account. -/
def freshDb : SyncDb PaOrder Unit where
  now := 100
  domain := ()

/-- What a run meets when every order applies. -/
def applyingSession : Session PaOrder Unit where
  fetchPage _ cp := (.ok ([], ""), cp)
  parseAndApply _ _ d := (.ok .created, d)
  calls := 5

/-- One new order and a run that meets no failure. -/
def shortRun : PaRun Unit where
  arrivals := [{ orderId := "1" }]
  session := applyingSession

theorem shortRun_keeps : KeepsOrders (PaState.init freshDb []) shortRun := by
  have hneeded : (PaState.init freshDb []).needed shortRun = [{ orderId := "1" }] := by decide
  refine ⟨⟨by decide, by decide⟩, .inr ⟨by rw [hneeded]; decide, fun k hk => ?_⟩⟩
  rw [hneeded] at hk ⊢
  have hzero : k = 0 := by
    change k * 50 < 1 at hk
    omega
  subst hzero
  exact ⟨rfl, by decide, (fun limit h => nomatch h), fun h => absurd h (by decide)⟩

theorem bookmark_lossless_at_short :
    Always paStep PaState.Lossless (PaState.init freshDb []) [shortRun] :=
  bookmark_lossless freshDb [] [shortRun] rfl ⟨shortRun_keeps, trivial⟩

/-- Two pages of new orders, and a run whose second request fails. -/
def brokenRun : PaRun Unit where
  arrivals := (List.range 51).map fun i => { orderId := natText i }
  fails n := if n = 1 then some "timeout" else none
  session := applyingSession

set_option maxRecDepth 4000 in
/-- The first page moves the bookmark to the newest order; the order of the
second page is neither stored nor above it. -/
theorem bookmark_lossless_fails :
    ¬Always paStep PaState.Lossless (PaState.init freshDb []) [brokenRun] := by
  intro h
  have hlost : (paStep (PaState.init freshDb []) brokenRun).db.raws "50" = none := by
    apply Option.isNone_iff_eq_none.mp
    decide
  have hbelow : ({ orderId := "50" } : PaOrder) ∉
      above (atBookmark (paStep (PaState.init freshDb []) brokenRun).bookmark)
        ((paStep (PaState.init freshDb []) brokenRun).newer ++ []) := by
    decide
  rcases h.2 { orderId := "50" } (by decide) with (hskip | ⟨raw, hraw⟩) | habove
  · revert hskip
    decide
  · have hkey : paKey { orderId := "50" } = "50" := by decide
    rw [hkey, hlost] at hraw
    cases hraw
  · exact hbelow habove

end Bookmarks

end Sda.Sync
