/-
Sda/Sync/Refresh.lean

The hourly order status refresh (`_refresh_account`,
sync/services/order_status_refresh.py): fetch the orders of an account from the
newest page on, ingest each again without enriching it, and stop at the first
order older than a cutoff or after 500 pages.

A refresh ends early at the first order whose own timestamp is before the
cutoff, whatever the feed is sorted by.  PlayerAuctions and Eldorado sort by
the timestamp that is compared; GameBoost sorts by the last update and compares
the purchase.

* `refreshAccount` — the loop, over a service and what one run of it meets;
* `refreshPages_feed` — what it ingests of a feed served in pages;
* `refresh_covers_iff` — when that is every order from the cutoff on, for the
  three providers.
-/
import Sda.Lib.Feed
import Sda.Sync.Notifications
import Sda.Sync.Orders

namespace Sda.Sync

/-- The variables of `_refresh_account`. -/
structure Refresh (ι δ : Type) where
  now : Nat
  raws : String → Option (RawPayload ι)
  domain : δ
  checkpoint : SyncCheckpoint
  /-- The items ingested, `count` of them. -/
  refreshed : List ι := []

section Refresh

variable {ι δ : Type} [DecidableEq ι]

/-- `item_ts and item_ts < cutoff_date`. -/
def isBefore (svc : Service ι) (cutoff : Nat) (item : ι) : Bool :=
  match svc.extractRemoteTimestamp item with
  | some ts => decide (ts < cutoff)
  | none => false

/-- `_ingest_raw`, and `_try_parse` for a payload that is PENDING then. -/
def refreshItem (svc : Service ι) (ses : Session ι δ) (n : Nat) (r : Refresh ι δ) (item : ι) :
    Refresh ι δ :=
  let remoteId := svc.extractRemoteId item
  if remoteId = "" then r
  else
    let raw := ingestRaw r.now item (r.raws remoteId)
    let r := { r with refreshed := r.refreshed ++ [item] }
    if raw.parseStatus = .pending then
      -- the run is the stand-in `_Counter`
      let out := tryParse (ses.parseAndApply n) r.now raw r.domain
        { mode := .incremental, createdAt := r.now }
      { r with raws := Function.update r.raws remoteId (some out.1), domain := out.2.1 }
    else
      { r with raws := Function.update r.raws remoteId (some raw) }

/-- `for item in items`, and `passed_cutoff`. -/
def refreshItems (svc : Service ι) (ses : Session ι δ) (cutoff n : Nat) :
    List ι → Refresh ι δ → Refresh ι δ × Bool
  | [], r => (r, false)
  | item :: items, r =>
    if isBefore svc cutoff item then (r, true)
    else refreshItems svc ses cutoff n items (refreshItem svc ses n r item)

/-- `while pages < max_pages`, from call `n` on, and the exception that left
it. -/
def refreshPages (svc : Service ι) (ses : Session ι δ) (cutoff : Nat) :
    Nat → Nat → Refresh ι δ → Option PyError × Refresh ι δ
  | 0, _, r => (none, r)
  | pages + 1, n, r =>
    let r := { r with now := r.now + ses.pause n }
    match ses.fetchPage n r.checkpoint with
    | (.error exc, checkpoint) => (some exc, { r with checkpoint })
    | (.ok (items, nextCursor), checkpoint) =>
      if items.isEmpty then (none, { r with checkpoint })
      else
        let (r, passedCutoff) := refreshItems svc ses cutoff n items { r with checkpoint }
        if nextCursor ≠ "" ∧ passedCutoff = false then
          refreshPages svc ses cutoff pages (n + 1)
            { r with checkpoint := { r.checkpoint with cursor := nextCursor } }
        else (none, r)

/-- `_build_refresh_checkpoint`, on the incremental checkpoint of the refresh: a
service with directions starts at its initial cursor, any other one at page 1. -/
def buildRefreshCheckpoint (initialCursor : Option String) (cp : SyncCheckpoint) :
    SyncCheckpoint :=
  let cp := { cp with mode := .incremental }
  match initialCursor with
  | some cursor => { cp with cursor }
  | none => { cp with cursor := "", incrementalPage := some 1, currentStatus := none }

/-- `max_pages`. -/
def refreshMaxPages : Nat := 500

/-- **`_refresh_account`**, from the refresh checkpoint of the account. -/
def refreshAccount (svc : Service ι) (ses : Session ι δ) (initialCursor : Option String)
    (cutoff : Nat) (db : SyncDb ι δ) (cp : SyncCheckpoint) : Option PyError × Refresh ι δ :=
  refreshPages svc ses cutoff refreshMaxPages 0
    { now := db.now, raws := db.raws, domain := db.domain
      checkpoint := buildRefreshCheckpoint initialCursor cp }

/-! ### What is ingested -/

variable {svc : Service ι} {ses : Session ι δ} {cutoff n : Nat}

theorem refreshItem_refreshed (r : Refresh ι δ) (item : ι) :
    (refreshItem svc ses n r item).refreshed =
      r.refreshed ++ [item].filter fun x => svc.extractRemoteId x != "" := by
  unfold refreshItem
  by_cases hid : svc.extractRemoteId item = ""
  · simp [hid]
  · simp only [hid, if_false]
    rw [List.filter_cons_of_pos (by simp [hid]), List.filter_nil]
    split <;> rfl

theorem refreshItem_checkpoint (r : Refresh ι δ) (item : ι) :
    (refreshItem svc ses n r item).checkpoint = r.checkpoint := by
  unfold refreshItem
  dsimp only
  split
  · rfl
  · split <;> rfl

/-- **One page**: what is above the first order before the cutoff. -/
theorem refreshItems_refreshed (svc : Service ι) (ses : Session ι δ) (cutoff n : Nat)
    (items : List ι) (r : Refresh ι δ) :
    (refreshItems svc ses cutoff n items r).1.refreshed =
        r.refreshed ++ (above (isBefore svc cutoff) items).filter
          (fun x => svc.extractRemoteId x != "") ∧
      (refreshItems svc ses cutoff n items r).1.checkpoint = r.checkpoint ∧
      (refreshItems svc ses cutoff n items r).2 = items.any (isBefore svc cutoff) := by
  induction items generalizing r with
  | nil => simp [refreshItems]
  | cons item items ih =>
    by_cases hbefore : isBefore svc cutoff item = true
    · rw [refreshItems, if_pos hbefore, above_cons_of_stop hbefore, List.any_cons, hbefore]
      simp
    · have hpass := Bool.not_eq_true _ ▸ hbefore
      obtain ⟨hrefreshed, hcp, hstop⟩ := ih (refreshItem svc ses n r item)
      rw [refreshItems, if_neg hbefore, above_cons hpass, List.any_cons, hpass]
      refine ⟨?_, ?_, ?_⟩
      · rw [hrefreshed, refreshItem_refreshed, List.append_assoc, ← List.filter_append]
        rfl
      · rw [hcp, refreshItem_checkpoint]
      · rw [hstop]
        rfl

/-- **A refresh of a feed.**  When every page is served from the feed and the
page bound is not reached, the refresh ends without an exception and ingests
the orders above the first one before the cutoff. -/
theorem refreshPages_feed (svc : Service ι) (cutoff : Nat) {At : Nat → SyncCheckpoint → Prop}
    {size : Nat} {feed : List ι} (hsize : 0 < size)
    (hfetch : ∀ n cp, At n cp → ∃ next cp',
      ses.fetchPage n cp = (.ok (pageOf size n feed, next), cp') ∧
        (next = "" ↔ feed.length ≤ (n + 1) * size) ∧
        (next ≠ "" → At (n + 1) { cp' with cursor := next }))
    (pages : Nat) (r : Refresh ι δ) (hat : At n r.checkpoint)
    (hbound : feed.length ≤ (n + pages) * size) (hn : n = 0 ∨ n * size < feed.length)
    (hpages : 0 < pages) :
    (refreshPages svc ses cutoff pages n r).1 = none ∧
      (refreshPages svc ses cutoff pages n r).2.refreshed =
        r.refreshed ++ (above (isBefore svc cutoff) (feed.drop (n * size))).filter
          (fun x => svc.extractRemoteId x != "") := by
  induction pages generalizing n r with
  | zero => cases hpages
  | succ pages ih =>
    obtain ⟨next, cp', hanswer, hlast, hnext⟩ := hfetch n r.checkpoint hat
    rw [refreshPages]
    dsimp only
    rw [hanswer]
    dsimp only
    by_cases hempty : pageOf size n feed = []
    · -- only an empty feed has an empty first page
      have hdrop : feed.drop (n * size) = [] :=
        List.drop_eq_nil_iff.mpr ((pageOf_eq_nil_iff hsize).mp hempty)
      rw [hempty, hdrop]
      exact ⟨rfl, (List.append_nil _).symm⟩
    rw [if_neg (by simpa using hempty), ← pageOf_append_drop size n feed]
    obtain ⟨hrefreshed, hcp, hstop⟩ := refreshItems_refreshed svc ses cutoff n
      (pageOf size n feed) { r with now := r.now + ses.pause n, checkpoint := cp' }
    generalize refreshItems svc ses cutoff n (pageOf size n feed)
      { r with now := r.now + ses.pause n, checkpoint := cp' } = out at hrefreshed hcp hstop ⊢
    obtain ⟨r', passedCutoff⟩ := out
    dsimp only at hrefreshed hcp hstop ⊢
    by_cases hmore : next ≠ "" ∧ passedCutoff = false
    · rw [if_pos hmore]
      have hlong : (n + 1) * size < feed.length := by
        have := mt hlast.mpr hmore.1
        omega
      have hnone : ∀ x ∈ pageOf size n feed, isBefore svc cutoff x = false := by
        have hany := hstop.symm.trans hmore.2
        rw [List.any_eq_false] at hany
        exact fun x hx => Bool.not_eq_true _ ▸ hany x hx
      have hpos : 0 < pages := by
        rcases Nat.eq_zero_or_pos pages with rfl | hpos
        · exact absurd hbound (Nat.not_le.mpr hlong)
        · exact hpos
      obtain ⟨hok, hih⟩ := ih { r' with checkpoint := { r'.checkpoint with cursor := next } }
        (by rw [hcp]; exact hnext hmore.1)
        (by rw [Nat.add_right_comm]; exact hbound) (.inr hlong) hpos
      refine ⟨hok, ?_⟩
      rw [hih, above_append hnone, List.filter_append, ← List.append_assoc]
      congr 1
      rw [hrefreshed, above_eq_self hnone]
    · rw [if_neg hmore]
      refine ⟨rfl, ?_⟩
      rw [hrefreshed]
      congr 2
      by_cases hstopped : ∃ x ∈ pageOf size n feed, isBefore svc cutoff x = true
      · exact (above_append_of_stop hstopped).symm
      · have hnone : (pageOf size n feed).any (isBefore svc cutoff) = false := by
          rw [List.any_eq_false]
          exact fun x hx hx' => hstopped ⟨x, hx, hx'⟩
        have hlastPage : feed.length ≤ (n + 1) * size := by
          refine hlast.mp ?_
          by_contra hne
          exact hmore ⟨hne, hstop.trans hnone⟩
        rw [List.drop_eq_nil_iff.mpr hlastPage, List.append_nil]

end Refresh

/-! ### The cutoff -/

/-- `_NON_FINAL_STATUSES`. -/
def nonFinal (o : Order) : Bool :=
  o.status == .pending || o.status == .delivered

/-- `_get_oldest_nonfinal_date`. -/
def oldestNonfinalDate (orders : Table Order) (provider : Provider) : Option Nat :=
  ((orders.select fun _ o => o.provider == provider && nonFinal o).filterMap
    fun r => r.2.soldAt).min?

/-- `cutoff_date` of a provider, a day before its oldest non-final order. -/
def cutoffDate (orders : Table Order) (provider : Provider) : Option Nat :=
  (oldestNonfinalDate orders provider).map fun oldest => oldest - 86400

/-- The cutoff is before every non-final order of the provider. -/
theorem cutoffDate_le {orders : Table Order} {provider : Provider} {k soldAt : Nat} {o : Order}
    (ho : orders.get? k = some o) (hprovider : o.provider = provider)
    (hstatus : nonFinal o = true) (hsold : o.soldAt = some soldAt) :
    ∃ cutoff, cutoffDate orders provider = some cutoff ∧ cutoff ≤ soldAt := by
  have hmem : soldAt ∈ (orders.select fun _ o => o.provider == provider && nonFinal o).filterMap
      fun r => r.2.soldAt := by
    refine List.mem_filterMap.mpr ⟨(k, o), Table.mem_select.mpr ⟨ho, ?_⟩, hsold⟩
    rw [hprovider, hstatus, beq_self_eq_true, Bool.and_self]
  rcases hmin : oldestNonfinalDate orders provider with - | oldest
  · rw [oldestNonfinalDate, List.min?_eq_none_iff] at hmin
    rw [hmin] at hmem
    cases hmem
  · refine ⟨oldest - 86400, by rw [cutoffDate, hmin]; rfl, ?_⟩
    have hle := (List.min?_eq_some_iff.mp hmin).2 soldAt hmem
    omega

/-! ### The three providers -/

section Providers

variable {δ : Type}

/-- The PlayerAuctions API over a feed. -/
def paServe (feed : List PaOrder) (page : Nat) : PaAnswer :=
  .page (pageOf paPageSize (page - 1) feed) feed.length

/-- `DEFAULT_PAGE_SIZE` of GameBoost. -/
def gameboostPageSize : Nat := 15

/-- The GameBoost API over a feed. -/
def gameboostServe (feed : List GameboostOrder) (page : Nat) (_sort : String) : GameboostAnswer :=
  .page (pageOf gameboostPageSize (page - 1) feed) (some page)
    (some (max 1 (pageCount gameboostPageSize feed.length)))

/-- `pageSize` of Eldorado. -/
def eldoradoPageSize : Nat := 20

/-- The cursor of a page: an opaque text. -/
def cursorText (page : Nat) : String :=
  String.ofList (List.replicate page 'c')

/-- The Eldorado API over a feed, newest first. -/
def eldoradoServe (feed : List EldoradoOrder) (cursor _direction : String) : EldoradoAnswer :=
  let page := if cursor = eldoradoInitialCursor .incremental then 0 else cursor.length
  .page (pageOf eldoradoPageSize page feed)
    (if (page + 1) * eldoradoPageSize < feed.length then cursorText (page + 1) else "") ""

/-- A run whose requests all reach an API. -/
def served {ι : Type} (fetch : SyncCheckpoint → Except PyError (List ι × String) × SyncCheckpoint)
    (parse : Nat → ι → δ → Except String ParseResult × δ) (pause : Nat → Nat) : Session ι δ where
  fetchPage _ := fetch
  parseAndApply := parse
  pause
  calls := 0

/-- The checkpoint of a page-numbered service before call `n`. -/
def AtPage (n : Nat) (cp : SyncCheckpoint) : Prop :=
  cp.mode = .incremental ∧ cp.incrementalPage = some (n + 1)

/-- The next cursor of a page-numbered service, and where it leaves the
checkpoint. -/
theorem trackPage_served {n size length : Nat} {cp : SyncCheckpoint} (hsize : 0 < size)
    (h : AtPage n cp) {next : String}
    (hnext : next = if n + 1 < pageCount size length then natText (n + 1 + 1) else "") :
    (next = "" ↔ length ≤ (n + 1) * size) ∧
      (next ≠ "" → AtPage (n + 1) { cp.trackPage next (n + 1 + 1) with cursor := next }) := by
  obtain ⟨hmode, -⟩ := h
  have hmore := succ_lt_pageCount_iff hsize n length
  by_cases hlt : n + 1 < pageCount size length
  · rw [if_pos hlt] at hnext
    have hne : next ≠ "" := by
      rw [hnext]
      exact natText_ne_empty _
    refine ⟨iff_of_false hne (Nat.not_le.mpr (hmore.mp hlt)), fun _ => ?_⟩
    rw [SyncCheckpoint.trackPage, if_pos ⟨hmode, hne⟩]
    exact ⟨hmode, rfl⟩
  · rw [if_neg hlt] at hnext
    exact ⟨iff_of_true hnext (Nat.not_lt.mp (mt hmore.mpr hlt)), fun hne => absurd hnext hne⟩

theorem paTotalPages_eq (length : Nat) : paTotalPages length = pageCount paPageSize length := by
  unfold paTotalPages
  split
  · rename_i hzero
    rw [hzero]
    rfl
  · rfl

theorem paFetchPage_served (feed : List PaOrder) (n : Nat) (cp : SyncCheckpoint)
    (h : AtPage n cp) :
    ∃ next cp', paFetchPage (paServe feed) cp = (.ok (pageOf paPageSize n feed, next), cp') ∧
      (next = "" ↔ feed.length ≤ (n + 1) * paPageSize) ∧
      (next ≠ "" → AtPage (n + 1) { cp' with cursor := next }) := by
  unfold paFetchPage
  rw [page_incremental h.1, h.2]
  show ∃ next cp', (if (pageOf paPageSize n feed).isEmpty then _ else _) = _ ∧ _
  by_cases hempty : pageOf paPageSize n feed = []
  · have hlen := (pageOf_eq_nil_iff (by decide)).mp hempty
    rw [hempty]
    exact ⟨"", cp, rfl, iff_of_true rfl (by rw [Nat.succ_mul]; omega), fun h => absurd rfl h⟩
  · rw [if_neg (by simpa using hempty)]
    exact ⟨_, _, rfl, trackPage_served (by decide) h (by rw [paTotalPages_eq]; rfl)⟩

theorem gameboostFetchPage_served (feed : List GameboostOrder) (n : Nat) (cp : SyncCheckpoint)
    (h : AtPage n cp) :
    ∃ next cp', gameboostFetchPage (gameboostServe feed) cp
        = (.ok (pageOf gameboostPageSize n feed, next), cp') ∧
      (next = "" ↔ feed.length ≤ (n + 1) * gameboostPageSize) ∧
      (next ≠ "" → AtPage (n + 1) { cp' with cursor := next }) := by
  unfold gameboostFetchPage
  rw [page_incremental h.1, h.2]
  show ∃ next cp', (if (pageOf gameboostPageSize n feed).isEmpty then _ else _) = _ ∧ _
  by_cases hempty : pageOf gameboostPageSize n feed = []
  · have hlen := (pageOf_eq_nil_iff (by decide)).mp hempty
    rw [hempty]
    exact ⟨"", cp, rfl, iff_of_true rfl (by rw [Nat.succ_mul]; omega), fun h => absurd rfl h⟩
  · rw [if_neg (by simpa using hempty)]
    refine ⟨_, _, rfl, trackPage_served (by decide) h ?_⟩
    show (if n + 1 < max 1 _ then _ else _) = _
    have hmax : n + 1 < max 1 (pageCount gameboostPageSize feed.length) ↔
        n + 1 < pageCount gameboostPageSize feed.length := by omega
    simp only [hmax]
    rfl

/-- The checkpoint of an incremental Eldorado run before call `n`. -/
def AtCursor (n : Nat) (cp : SyncCheckpoint) : Prop :=
  cp.mode = .incremental ∧
    cp.cursor = if n = 0 then eldoradoInitialCursor .incremental else cursorText n

@[simp] theorem cursorText_length (n : Nat) : (cursorText n).length = n := by
  simp [cursorText, ← String.length_toList]

theorem cursorText_ne_empty (n : Nat) : cursorText (n + 1) ≠ "" := by
  intro h
  have hlength := congrArg String.length h
  rw [cursorText_length] at hlength
  cases hlength

theorem cursorText_ne_initial (n : Nat) : cursorText n ≠ eldoradoInitialCursor .incremental := by
  intro h
  have hmem : '9' ∈ (cursorText n).toList := by
    rw [h]
    decide
  simp [cursorText] at hmem

theorem eldoradoFetchPage_served (feed : List EldoradoOrder) (n : Nat) (cp : SyncCheckpoint)
    (h : AtCursor n cp) :
    ∃ next cp', eldoradoFetchPage (eldoradoServe feed) cp
        = (.ok (pageOf eldoradoPageSize n feed, next), cp') ∧
      (next = "" ↔ feed.length ≤ (n + 1) * eldoradoPageSize) ∧
      (next ≠ "" → AtCursor (n + 1) { cp' with cursor := next }) := by
  obtain ⟨hmode, hcursor⟩ := h
  have hne : cp.cursor ≠ "" := by
    rw [hcursor]
    rcases n with - | n
    · decide
    · exact cursorText_ne_empty n
  have hpage : (if cp.cursor = eldoradoInitialCursor .incremental then 0 else cp.cursor.length)
      = n := by
    rw [hcursor]
    rcases n with - | n
    · rfl
    · rw [if_neg (Nat.succ_ne_zero n), if_neg (cursorText_ne_initial _), cursorText_length]
  have hfetch : eldoradoFetchPage (eldoradoServe feed) cp = (.ok (pageOf eldoradoPageSize n feed,
      if (n + 1) * eldoradoPageSize < feed.length then cursorText (n + 1) else ""), cp) := by
    unfold eldoradoFetchPage
    simp only [if_neg hne, hmode, if_true, eldoradoServe, hpage]
  refine ⟨_, _, hfetch, ?_, fun hmore => ⟨hmode, ?_⟩⟩
  · by_cases hlt : (n + 1) * eldoradoPageSize < feed.length
    · rw [if_pos hlt]
      exact iff_of_false (cursorText_ne_empty n) (Nat.not_le.mpr hlt)
    · rw [if_neg hlt]
      exact iff_of_true rfl (Nat.not_lt.mp hlt)
  · rw [if_neg (Nat.succ_ne_zero n)]
    exact if_pos (by_contra fun hlt => hmore (if_neg hlt))

/-! ### When a refresh covers the cutoff -/

/-- An order with a remote id, purchased at or after the cutoff. -/
def FromCutoff {ι : Type} (svc : Service ι) (cutoff : Nat) (o : ι) : Prop :=
  svc.extractRemoteId o ≠ "" ∧ ∃ ts, svc.extractRemoteTimestamp o = some ts ∧ cutoff ≤ ts

/-- **A refresh covers the cutoff**: it ends without an exception and ingests
every order of the feed from the cutoff on. -/
def RefreshCovers {ι : Type} (svc : Service ι) (cutoff : Nat) (feed : List ι)
    (out : Option PyError × Refresh ι δ) : Prop :=
  out.1 = none ∧ ∀ o ∈ feed, FromCutoff svc cutoff o → o ∈ out.2.refreshed

/-- Every order from the cutoff on is above the first order older than it. -/
def CutoffSplits {ι : Type} (svc : Service ι) (cutoff : Nat) (feed : List ι) : Prop :=
  ∀ o ∈ feed, FromCutoff svc cutoff o → o ∈ above (isBefore svc cutoff) feed

/-- A refresh of a served feed covers the cutoff when the feed splits there. -/
theorem refreshAccount_covers {ι : Type} [DecidableEq ι] {svc : Service ι} {ses : Session ι δ}
    {cutoff : Nat} {feed : List ι} {initialCursor : Option String} {cp : SyncCheckpoint}
    {At : Nat → SyncCheckpoint → Prop} {size : Nat} (db : SyncDb ι δ) (hsize : 0 < size)
    (hfetch : ∀ n cp, At n cp → ∃ next cp',
      ses.fetchPage n cp = (.ok (pageOf size n feed, next), cp') ∧
        (next = "" ↔ feed.length ≤ (n + 1) * size) ∧
        (next ≠ "" → At (n + 1) { cp' with cursor := next }))
    (hat : At 0 (buildRefreshCheckpoint initialCursor cp))
    (hbound : feed.length ≤ refreshMaxPages * size) :
    RefreshCovers svc cutoff feed (refreshAccount svc ses initialCursor cutoff db cp) ↔
      CutoffSplits svc cutoff feed := by
  obtain ⟨hok, hrefreshed⟩ := refreshPages_feed (n := 0) svc cutoff hsize hfetch refreshMaxPages
    { now := db.now, raws := db.raws, domain := db.domain
      checkpoint := buildRefreshCheckpoint initialCursor cp }
    hat (by rwa [Nat.zero_add]) (.inl rfl) (by decide)
  rw [Nat.zero_mul, List.drop_zero, List.nil_append] at hrefreshed
  have hmem : ∀ o, o ∈ (refreshAccount svc ses initialCursor cutoff db cp).2.refreshed ↔
      o ∈ above (isBefore svc cutoff) feed ∧ svc.extractRemoteId o ≠ "" := by
    intro o
    show o ∈ (refreshPages _ _ _ _ _ _).2.refreshed ↔ _
    rw [hrefreshed, List.mem_filter, bne_iff_ne]
  constructor
  · exact fun hcovers o ho hfrom => ((hmem o).mp (hcovers.2 o ho hfrom)).1
  · exact fun hsplits => ⟨hok, fun o ho hfrom => (hmem o).mpr ⟨hsplits o ho hfrom, hfrom.1⟩⟩

/-- A feed sorted by the timestamp that is compared splits at the cutoff. -/
theorem cutoffSplits_of_sorted {ι : Type} {svc : Service ι} {cutoff : Nat} {feed : List ι}
    (hsorted : feed.Pairwise fun a b => ∀ s t, svc.extractRemoteTimestamp a = some s →
      svc.extractRemoteTimestamp b = some t → t ≤ s) :
    CutoffSplits svc cutoff feed := by
  induction feed with
  | nil => exact fun o ho => absurd ho List.not_mem_nil
  | cons a feed ih =>
    obtain ⟨hhead, htail⟩ := List.pairwise_cons.mp hsorted
    intro o ho hfrom
    obtain ⟨ts, hts, hle⟩ := hfrom.2
    have hpass : isBefore svc cutoff a = false := by
      unfold isBefore
      rcases ha : svc.extractRemoteTimestamp a with - | s
      · rfl
      · refine decide_eq_false (Nat.not_lt.mpr (hle.trans ?_))
        rcases List.mem_cons.mp ho with rfl | ho
        · rw [hts] at ha
          cases ha
          exact Nat.le_refl _
        · exact hhead o ho s ts ha hts
    rw [above_cons hpass]
    rcases List.mem_cons.mp ho with rfl | ho
    · exact List.mem_cons_self
    · exact List.mem_cons_of_mem _ (ih htail o ho hfrom)

/-- **When a refresh covers every open order.**  With every request answered
and the page bound not reached, it does exactly when, in the feed, no order
from the cutoff on is found only below an order older than the cutoff. -/
theorem refresh_covers_iff (cutoff : Nat) (pause : Nat → Nat) (cp : SyncCheckpoint) :
    (∀ (feed : List GameboostOrder) (parse : Nat → GameboostOrder → δ → Except String ParseResult × δ)
        (db : SyncDb GameboostOrder δ), feed.length ≤ refreshMaxPages * gameboostPageSize →
      (RefreshCovers gameboostOrderSync cutoff feed
          (refreshAccount gameboostOrderSync
            (served (gameboostFetchPage (gameboostServe feed)) parse pause) none cutoff db cp) ↔
        CutoffSplits gameboostOrderSync cutoff feed)) ∧
    (∀ (feed : List PaOrder) (parse : Nat → PaOrder → δ → Except String ParseResult × δ)
        (db : SyncDb PaOrder δ), feed.length ≤ refreshMaxPages * paPageSize →
      (RefreshCovers (playerAuctionsOrderSync none) cutoff feed
          (refreshAccount (playerAuctionsOrderSync none)
            (served (paFetchPage (paServe feed)) parse pause) none cutoff db cp) ↔
        CutoffSplits (playerAuctionsOrderSync none) cutoff feed)) ∧
    (∀ (feed : List EldoradoOrder) (parse : Nat → EldoradoOrder → δ → Except String ParseResult × δ)
        (db : SyncDb EldoradoOrder δ), feed.length ≤ refreshMaxPages * eldoradoPageSize →
      (RefreshCovers (eldoradoOrderSync none) cutoff feed
          (refreshAccount (eldoradoOrderSync none)
            (served (eldoradoFetchPage (eldoradoServe feed)) parse pause)
            (some (eldoradoInitialCursor .incremental)) cutoff db cp) ↔
        CutoffSplits (eldoradoOrderSync none) cutoff feed)) := by
  refine ⟨fun feed parse db hbound => ?_, fun feed parse db hbound => ?_,
    fun feed parse db hbound => ?_⟩
  · exact refreshAccount_covers db (by decide) (gameboostFetchPage_served feed · ·) ⟨rfl, rfl⟩
      hbound
  · exact refreshAccount_covers db (by decide) (paFetchPage_served feed · ·) ⟨rfl, rfl⟩ hbound
  · exact refreshAccount_covers db (by decide) (eldoradoFetchPage_served feed · ·) ⟨rfl, rfl⟩
      hbound

/-- An old order that was updated last, above an order of today. -/
def updatedFeed : List GameboostOrder :=
  [{ id := "old", purchasedAt := some 10, updatedAt := 200 },
    { id := "new", purchasedAt := some 100, updatedAt := 100 }]

/-- The run over this feed. -/
def updatedRefresh : Option PyError × Refresh GameboostOrder Unit :=
  refreshAccount gameboostOrderSync
    (served (gameboostFetchPage (gameboostServe updatedFeed)) (fun _ _ d => (.ok .updated, d))
      fun _ => 0)
    none 50 { now := 300, domain := () } { mode := .incremental }

theorem refresh_covers_at_updated :
    RefreshCovers gameboostOrderSync 50 updatedFeed updatedRefresh ↔
      CutoffSplits gameboostOrderSync 50 updatedFeed :=
  (refresh_covers_iff 50 (fun _ => 0) { mode := .incremental }).1 updatedFeed
    (fun _ _ d => (.ok .updated, d)) { now := 300, domain := () } (by decide)

/-- The refresh ends at the old order and never reaches the new one. -/
theorem refresh_covers_fails : ¬RefreshCovers gameboostOrderSync 50 updatedFeed updatedRefresh := by
  intro hcovers
  have hmem := hcovers.2 { id := "new", purchasedAt := some 100, updatedAt := 100 } (by decide)
    ⟨by decide, 100, rfl, by decide⟩
  revert hmem
  decide

end Providers

end Sda.Sync
