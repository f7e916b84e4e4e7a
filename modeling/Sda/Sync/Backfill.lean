/-
Sda/Sync/Backfill.lean

The backfill of Eldorado orders: runs that page through the orders of an
account, oldest first, each from the cursor the one before it left, until the
API sends no next cursor.

A page that is not blocked moves the cursor, so the orders before the cursor are
done with.  A run takes an empty cursor for the end of the feed, and two other
things leave one: a request that fails returns an empty page, and a last page
that is blocked still has no next cursor.

Main result: `backfill_honest`, the runs that complete a backfill only at its
end.
-/
import Sda.Lib.Run
import Sda.Sync.Blocking
import Sda.Sync.Refresh

namespace Sda.Sync

/-! ### Payloads that are done with -/

section Final

variable {ι δ : Type} [DecidableEq ι]
variable {svc : Service ι} {ses : Session ι δ} {isSeen : ι → Bool} {now n : Nat}
variable {item : ι} {items : List ι} {pg pg' : Page ι δ}

omit [DecidableEq ι] in
/-- Parsed, or out of attempts. -/
def RawPayload.Final (svc : Service ι) (raw : RawPayload ι) : Prop :=
  (raw.parseStatus ≠ .pending ∧ raw.parseStatus ≠ .failed) ∨
    svc.maxParseRetryAttempts ≤ raw.parseAttempts

omit [DecidableEq ι] in
/-- The payload under the id is done with. -/
def FinalAt (svc : Service ι) (raws : String → Option (RawPayload ι)) (id : String) : Prop :=
  ∃ raw, raws id = some raw ∧ raw.Final svc

theorem ingestRaw_not_failed (now : Nat) (payload : ι) (old : Option (RawPayload ι)) :
    (ingestRaw now payload old).parseStatus ≠ .failed := by
  rcases old with - | raw
  · intro h
    cases h
  · by_cases hchange : raw.payload ≠ payload ∨ raw.parseStatus = .failed
    · rw [ingestRaw, if_pos hchange]
      intro h
      cases h
    · rw [ingestRaw, if_neg hchange]
      exact fun h => hchange (.inr h)

/-- A payload that does not block is done with. -/
theorem applyItem_final (hphase : ses.phase ≠ .ingest) (now n : Nat) (remoteId : String)
    (payload : ι) (pg : Page ι δ)
    (h : (applyItem svc ses now n remoteId payload pg).pageParseFailed = false) :
    FinalAt svc (applyItem svc ses now n remoteId payload pg).raws remoteId := by
  unfold applyItem at h ⊢
  dsimp only at h ⊢
  rw [if_neg hphase] at h ⊢
  refine ⟨_, Function.update_self .., ?_⟩
  have hfailed := ingestRaw_not_failed now payload (pg.raws remoteId)
  unfold tryParse at h ⊢
  by_cases hpending : (ingestRaw now payload (pg.raws remoteId)).parseStatus = .pending
  · rw [if_neg (not_not.mpr hpending)] at h ⊢
    generalize ses.parseAndApply n (ingestRaw now payload (pg.raws remoteId)).payload pg.domain = out
      at h ⊢
    rcases out with ⟨message | result, domain⟩
    · right
      obtain ⟨-, hblock⟩ := Bool.or_eq_false_iff.mp h
      exact Nat.not_lt.mp (of_decide_eq_false hblock)
    · exact .inl ⟨nofun, nofun⟩
  · rw [if_pos hpending]
    exact .inl ⟨hpending, hfailed⟩

/-- **A page that is not blocked** leaves every payload done with. -/
theorem ingestItems_final (hmax : 1 < svc.maxParseRetryAttempts) (hphase : ses.phase ≠ .ingest)
    (hprepare : ∀ x, ses.prepareItem n x ≠ .skipItem) (hskip : ∀ x, svc.shouldSkipItem x = false)
    (h : ingestItems svc ses isSeen now n items pg = .ok pg')
    (hkeys : ((above isSeen items).map (remoteKey svc)).Nodup)
    (hfailed : pg'.pageParseFailed = false) :
    ∀ x ∈ above isSeen items, FinalAt svc pg'.raws (remoteKey svc x) := by
  induction items generalizing pg with
  | nil => exact fun x hx => absurd hx List.not_mem_nil
  | cons item items ih =>
    by_cases hseen : isSeen item = true
    · rw [above_cons_of_stop hseen]
      exact fun x hx => absurd hx List.not_mem_nil
    · have hseen' := Bool.not_eq_true _ ▸ hseen
      obtain ⟨pg₁, hitem, hrest⟩ := ingestItems_cons_ok hseen' h
      rw [above_cons hseen', List.map_cons, List.nodup_cons] at hkeys
      rw [above_cons hseen']
      intro x hx
      rcases List.mem_cons.mp hx with rfl | hx
      · have hfailed₁ : pg₁.pageParseFailed = false := by
          by_contra hne
          have := ingestItems_parseFailed_mono hmax hrest (Bool.not_eq_false _ ▸ hne)
          exact absurd (hfailed.symm.trans this) nofun
        have hfinal : FinalAt svc pg₁.raws (remoteKey svc x) := by
          obtain ⟨-, pg₂, errors, rfl, hcases⟩ := ingestItem_cases hitem
          rcases hcases with ⟨hskip', -, -⟩ | ⟨-, hprepare', -, -⟩ | ⟨-, -, payload, -, rfl⟩
          · exact absurd ((hskip x).symm.trans hskip') nofun
          · exact absurd hprepare' (hprepare x)
          · exact applyItem_final hphase now n (remoteKey svc x) payload _ hfailed₁
        -- the items after it are stored under other ids
        obtain ⟨raw, hraw, hdone⟩ := hfinal
        have hstores := ingestItems_stores (t := 0) hrest (Nat.zero_le _) fun y _ _ => hprepare y
        refine ⟨raw, (hstores.other _ fun y hy heq => hkeys.1 ?_).trans hraw, hdone⟩
        exact heq ▸ List.mem_map_of_mem (List.mem_of_mem_filter hy)
      · exact ih hrest hkeys.2 x hx

end Final

/-! ### The feed of Eldorado, oldest first -/

/-- The Eldorado API over a feed, oldest first; `fail` says that the request
fails. -/
def eldoradoServeBack (fail : Bool) (feed : List EldoradoOrder) (cursor _direction : String) :
    EldoradoAnswer :=
  if fail then .failed
  else
    let page := if cursor = eldoradoInitialCursor .backfill then 0 else cursor.length
    .page (pageOf eldoradoPageSize page feed) ""
      (if (page + 1) * eldoradoPageSize < feed.length then cursorText (page + 1) else "")

/-- The checkpoint of a backfill before page `p`. -/
def AtBackfill (p : Nat) (cp : SyncCheckpoint) : Prop :=
  cp.mode = .backfill ∧ cp.cursor = if p = 0 then "" else cursorText p

theorem cursorText_ne_initialBackfill (n : Nat) :
    cursorText n ≠ eldoradoInitialCursor .backfill := by
  intro h
  have hmem : '0' ∈ (cursorText n).toList := by
    rw [h]
    decide
  simp [cursorText] at hmem

theorem eldoradoFetchPage_backfill {p : Nat} {cp : SyncCheckpoint} (feed : List EldoradoOrder)
    (h : AtBackfill p cp) :
    eldoradoFetchPage (eldoradoServeBack false feed) cp
      = (.ok (pageOf eldoradoPageSize p feed,
          if (p + 1) * eldoradoPageSize < feed.length then cursorText (p + 1) else ""), cp) := by
  obtain ⟨hmode, hcursor⟩ := h
  have hpage : (if (if cp.cursor = "" then eldoradoInitialCursor .backfill else cp.cursor)
      = eldoradoInitialCursor .backfill then 0
      else (if cp.cursor = "" then eldoradoInitialCursor .backfill else cp.cursor).length) = p := by
    rw [hcursor]
    rcases p with - | p
    · rfl
    · rw [if_neg (Nat.succ_ne_zero p), if_neg (cursorText_ne_empty p),
        if_neg (cursorText_ne_initialBackfill _), cursorText_length]
  unfold eldoradoFetchPage
  simp only [eldoradoServeBack, hpage, hmode, reduceCtorEq, if_false, Bool.false_eq_true]

theorem eldoradoFetchPage_failed (feed : List EldoradoOrder) (cp : SyncCheckpoint) :
    eldoradoFetchPage (eldoradoServeBack true feed) cp = (.ok ([], ""), cp) :=
  rfl

/-! ### Runs of a backfill -/

section Runs

variable {δ : Type}

/-- The id an order is stored under. -/
abbrev eldoradoKey (o : EldoradoOrder) : String :=
  stripText (stripText o.id)

/-- The rows of the account, the remote feed, and when the backfill began. -/
structure BackfillState (δ : Type) where
  db : SyncDb EldoradoOrder δ
  feed : List EldoradoOrder
  since : Nat

/-- The orders that join the feed at its end, then a run. -/
structure BackfillRun (δ : Type) where
  arrivals : List EldoradoOrder := []
  maxPages : Option Nat := none
  /-- The requests that fail. -/
  fails : Nat → Bool := fun _ => false
  accountDetails : Nat → String → Option String := fun _ _ => none
  session : Session EldoradoOrder δ

def BackfillRun.over (e : BackfillRun δ) (feed : List EldoradoOrder) : Session EldoradoOrder δ :=
  { e.session with
    fetchPage := fun n => eldoradoFetchPage (eldoradoServeBack (e.fails n) feed)
    prepareItem := fun n => eldoradoPrepareItem (e.accountDetails n) }

def BackfillState.feedAfter (s : BackfillState δ) (e : BackfillRun δ) : List EldoradoOrder :=
  s.feed ++ e.arrivals

def backfillStep (s : BackfillState δ) (e : BackfillRun δ) : BackfillState δ where
  db := runSync (eldoradoOrderSync e.maxPages) (e.over (s.feedAfter e)) noReconcile .backfill s.db
  feed := s.feedAfter e
  since := s.since

/-- A backfill begins without a checkpoint. -/
def BackfillState.init (db : SyncDb EldoradoOrder δ) (feed : List EldoradoOrder) :
    BackfillState δ where
  db := { db with checkpoints := Function.update db.checkpoints .backfill none }
  feed
  since := db.now

/-- The backfill is recorded as complete. -/
def BackfillState.Completed (s : BackfillState δ) : Prop :=
  (s.db.checkpoint .backfill).status = .completed

/-- Every order of these was fetched since the backfill began and is done
with. -/
def AllFinal (since : Nat) (raws : String → Option (RawPayload EldoradoOrder))
    (orders : List EldoradoOrder) : Prop :=
  ∀ o ∈ orders, SeenSince since raws (eldoradoKey o) ∧
    FinalAt (eldoradoOrderSync none) raws (eldoradoKey o)

/-- **A run completes the backfill honestly**: where it becomes complete, every
page was fetched, the one without a next cursor included, and every payload was
parsed or is out of attempts. -/
def CompletesHonestly (s : BackfillState δ) (e : BackfillRun δ) : Prop :=
  ¬s.Completed → (backfillStep s e).Completed →
    AllFinal s.since (backfillStep s e).db.raws (s.feedAfter e)

/-- The page the next run starts at. -/
def BackfillState.page (s : BackfillState δ) : Nat :=
  (s.db.checkpoint .backfill).cursor.length

/-- **The condition on a run**: it parses what it stores, of the pages from the
first one it reads no later request fails, and no order of the last page has a
payload that blocks.  The ids of the feed are distinct. -/
def ReadsToTheEnd (s : BackfillState δ) (e : BackfillRun δ) : Prop :=
  ((s.feedAfter e).map eldoradoKey).Nodup ∧ e.session.phase ≠ .ingest ∧
    (∀ n, 0 < n → (s.page + n) * eldoradoPageSize < (s.feedAfter e).length → e.fails n = false) ∧
    ∀ n, (s.page + n) * eldoradoPageSize < (s.feedAfter e).length →
      (s.feedAfter e).length ≤ (s.page + n + 1) * eldoradoPageSize →
      ∀ o ∈ pageOf eldoradoPageSize (s.page + n) (s.feedAfter e),
        Passes (eldoradoOrderSync e.maxPages) (e.over (s.feedAfter e)) n s.db.raws o

/-- Where a backfill stands: before page `p`, with all orders before it done
with. -/
structure Stands (s : BackfillState δ) (p : Nat) : Prop where
  checkpoint : AtBackfill p (s.db.checkpoint .backfill)
  inside : p = 0 ∨ p * eldoradoPageSize < s.feed.length
  done : AllFinal s.since s.db.raws (s.feed.take (p * eldoradoPageSize))
  clock : s.since ≤ s.db.now

theorem eldoradoPrepareItem_ne_skip (answer : String → Option String) (o : EldoradoOrder) :
    eldoradoPrepareItem answer o ≠ .skipItem := by
  unfold eldoradoPrepareItem
  split
  · split <;> exact nofun
  · exact nofun

theorem AllFinal.keep {since : Nat} {raws raws' : String → Option (RawPayload EldoradoOrder)}
    {orders : List EldoradoOrder} (h : AllFinal since raws orders)
    (hother : ∀ o ∈ orders, raws' (eldoradoKey o) = raws (eldoradoKey o)) :
    AllFinal since raws' orders := by
  intro o ho
  obtain ⟨hseen, hfinal⟩ := h o ho
  rw [SeenSince, FinalAt, hother o ho]
  exact ⟨hseen, hfinal⟩

theorem AllFinal.append {since : Nat} {raws : String → Option (RawPayload EldoradoOrder)}
    {orders orders' : List EldoradoOrder} (h : AllFinal since raws orders)
    (h' : AllFinal since raws orders') : AllFinal since raws (orders ++ orders') := by
  intro o ho
  rcases List.mem_append.mp ho with ho | ho
  · exact h o ho
  · exact h' o ho

/-- What a run leaves: the whole feed is done with, or it stands before a page
and does not report the end. -/
def Leaves (since : Nat) (feed : List EldoradoOrder) (status : CheckpointStatus)
    (out : Except RunError Bool × Loop EldoradoOrder δ) : Prop :=
  out.2.checkpoint.status = status ∧ since ≤ out.2.now ∧
    ((out.1 = .ok true ∧ out.2.checkpoint.mode = .backfill ∧ AllFinal since out.2.raws feed) ∨
      (out.1 ≠ .ok true ∧ ∃ p, AtBackfill p out.2.checkpoint ∧
        (p = 0 ∨ p * eldoradoPageSize < feed.length) ∧
        AllFinal since out.2.raws (feed.take (p * eldoradoPageSize))))

variable {s : BackfillState δ} {e : BackfillRun δ}

theorem eldorado_maxAttempts (maxPages : Option Nat) :
    1 < (eldoradoOrderSync maxPages).maxParseRetryAttempts := by
  show 1 < 5
  decide

/-- **One page of a backfill** that is committed: it is blocked, and not the last
one, or its orders are done with and the cursor moves on. -/
theorem backfillPage {start : SyncCheckpoint} {n p since : Nat} {l l₁ : Loop EldoradoOrder δ}
    {next : String} {caughtUp : Bool} (hstart : start.mode = .backfill)
    (hreads : ReadsToTheEnd s e) (hp : p = s.page + n) (hmode : l.checkpoint.mode = .backfill)
    (hdone : AllFinal since l.raws ((s.feedAfter e).take (p * eldoradoPageSize)))
    (hclock : since ≤ l.now) (hfailed : l.parseFailedAny = false)
    (hraws : ∀ o ∈ (s.feedAfter e).drop (p * eldoradoPageSize),
      l.raws (eldoradoKey o) = s.db.raws (eldoradoKey o))
    (hlt : p * eldoradoPageSize < (s.feedAfter e).length)
    (hread : readPage (eldoradoOrderSync e.maxPages) (e.over (s.feedAfter e)) start n
      (pageOf eldoradoPageSize p (s.feedAfter e)) next l = .ok (l₁, caughtUp)) :
    caughtUp = false ∧ l₁.checkpoint.mode = .backfill ∧
      l₁.checkpoint.status = l.checkpoint.status ∧
      (∀ o ∈ (s.feedAfter e).drop ((p + 1) * eldoradoPageSize),
        l₁.raws (eldoradoKey o) = s.db.raws (eldoradoKey o)) ∧
      ((l₁.parseFailedAny = true ∧ (p + 1) * eldoradoPageSize < (s.feedAfter e).length ∧
          l₁.checkpoint = l.checkpoint ∧
          AllFinal since l₁.raws ((s.feedAfter e).take (p * eldoradoPageSize))) ∨
        (l₁.parseFailedAny = false ∧ l₁.checkpoint.cursor = next ∧
          AllFinal since l₁.raws ((s.feedAfter e).take ((p + 1) * eldoradoPageSize)))) := by
  obtain ⟨hkeys, hphase, -, hlastPasses⟩ := hreads
  obtain ⟨pg, hitems, hcaught, hraws₁, hflag, -, hcheckpoint⟩ := readPage_fields hread
  rw [seen_backfill hstart] at hitems
  have habove : above (fun _ : EldoradoOrder => false)
      (pageOf eldoradoPageSize p (s.feedAfter e)) = pageOf eldoradoPageSize p (s.feedAfter e) :=
    above_eq_self fun _ _ => rfl
  have hprepare : ∀ o, (e.over (s.feedAfter e)).prepareItem n o ≠ .skipItem :=
    eldoradoPrepareItem_ne_skip (e.accountDetails n)
  have hstores := ingestItems_stores (t := since) hitems hclock fun o _ _ => hprepare o
  rw [habove, kept_eq_self fun _ => rfl, ← hraws₁] at hstores
  -- the ids of the feed are distinct: before the page, on it and after it
  have htake := List.take_append_drop (p * eldoradoPageSize) (s.feedAfter e)
  have hsplit := pageOf_append_drop eldoradoPageSize p (s.feedAfter e)
  rw [← htake, ← hsplit, List.map_append, List.map_append] at hkeys
  obtain ⟨-, hkeysRest, hdisjoint⟩ := List.nodup_append.mp hkeys
  obtain ⟨hkeysPage, -, hdisjoint'⟩ := List.nodup_append.mp hkeysRest
  have hdone₁ : AllFinal since l₁.raws ((s.feedAfter e).take (p * eldoradoPageSize)) := by
    apply hdone.keep
    intro o ho
    apply hstores.other
    intro x hx heq
    exact hdisjoint _ (List.mem_map_of_mem ho) _
      (List.mem_append_left _ (List.mem_map_of_mem hx)) heq.symm
  have hmapKeys : ((above (fun _ : EldoradoOrder => false)
      (pageOf eldoradoPageSize p (s.feedAfter e))).map
        (remoteKey (eldoradoOrderSync e.maxPages))).Nodup := by
    rw [habove]
    exact hkeysPage
  rw [hfailed, Bool.false_or] at hflag hcheckpoint
  refine ⟨?_, ?_, ?_, fun o ho => ?_, ?_⟩
  · rw [hcaught, (ingestItems_flow hitems).1, Bool.false_or]
    exact List.any_eq_false.mpr fun _ _ => Bool.false_ne_true
  · rw [hcheckpoint]
    split
    · exact hmode
    · exact (advancePage_keys ..).1.trans hmode
  · rw [hcheckpoint]
    split
    · rfl
    · exact advancePage_status ..
  · refine (hstores.other _ fun x hx heq => ?_).trans (hraws o ?_)
    · exact hdisjoint' _ (List.mem_map_of_mem hx) _ (List.mem_map_of_mem ho) heq
    · rw [← hsplit]
      exact List.mem_append_right _ ho
  · rcases hblocked : pg.pageParseFailed with _ | _
    · -- the page is done with
      rw [hblocked] at hflag hcheckpoint
      rw [if_neg Bool.false_ne_true] at hcheckpoint
      refine .inr ⟨hflag, ?_, ?_⟩
      · rw [hcheckpoint, advancePage_cursor]
        intro hlast
        have hnil := ((ingestItems_flow hitems).2.2.1 hlast).2
        rw [habove, pageOf_eq_nil_iff (by decide)] at hnil
        omega
      · rw [← take_append_pageOf]
        apply hdone₁.append
        have hfinal := ingestItems_final (eldorado_maxAttempts e.maxPages)
          (show (e.over (s.feedAfter e)).phase ≠ .ingest from hphase) hprepare (fun _ => rfl)
          hitems hmapKeys hblocked
        rw [habove, ← hraws₁] at hfinal
        exact fun o ho => ⟨hstores.stored o ho, hfinal o ho⟩
    · -- a blocked page is not the last one
      rw [hblocked] at hflag hcheckpoint
      rw [if_pos rfl] at hcheckpoint
      refine .inl ⟨hflag, ?_, hcheckpoint, hdone₁⟩
      by_contra hlast
      have hpasses := hlastPasses n (hp ▸ hlt) (hp ▸ Nat.not_lt.mp hlast)
      rw [← hp] at hpasses
      have hall : ∀ o ∈ above (fun _ => false) (pageOf eldoradoPageSize p (s.feedAfter e)),
          Passes (eldoradoOrderSync e.maxPages) (e.over (s.feedAfter e)) n l.raws o := by
        intro o ho
        rw [habove] at ho
        have hrow : l.raws (remoteKey (eldoradoOrderSync e.maxPages) o)
            = s.db.raws (remoteKey (eldoradoOrderSync e.maxPages) o) :=
          hraws o (hsplit ▸ List.mem_append_left _ ho)
        exact (passes_congr hrow).mp (hpasses o ho)
      have hnot := ingestItems_passes (eldorado_maxAttempts e.maxPages) hitems hmapKeys hall
      exact absurd (hblocked.symm.trans hnot) nofun

/-- **The pages of a run of a backfill**, from call `n` on. -/
theorem backfillPages_leaves {start : SyncCheckpoint} {calls n p since : Nat}
    {l : Loop EldoradoOrder δ} {status : CheckpointStatus} (hstart : start.mode = .backfill)
    (hreads : ReadsToTheEnd s e) (hp : p = s.page + n) (hat : AtBackfill p l.checkpoint)
    (hinside : p = 0 ∨ p * eldoradoPageSize < (s.feedAfter e).length)
    (hdone : AllFinal since l.raws ((s.feedAfter e).take (p * eldoradoPageSize)))
    (hclock : since ≤ l.now) (hfailed : l.parseFailedAny = false)
    (hfetched : n = 0 → l.fetchedAny = false) (hstatus : l.checkpoint.status = status)
    (hraws : ∀ o ∈ (s.feedAfter e).drop (p * eldoradoPageSize),
      l.raws (eldoradoKey o) = s.db.raws (eldoradoKey o)) :
    Leaves since (s.feedAfter e) status
      (fetchPages (eldoradoOrderSync e.maxPages) (e.over (s.feedAfter e)) start calls n l) := by
  induction calls generalizing n p l with
  | zero => exact ⟨hstatus, hclock, .inr ⟨nofun, p, hat, hinside, hdone⟩⟩
  | succ calls ih =>
    have hclock' : since ≤ (l.beforeFetch ((e.over (s.feedAfter e)).pause n)).now :=
      hclock.trans (Nat.le_add_right ..)
    -- an empty page ends the run; it is the end only after another page
    have hempty : ∀ next, (e.over (s.feedAfter e)).fetchPage n l.checkpoint
        = (.ok ([], next), l.checkpoint) → n = 0 →
        Leaves since (s.feedAfter e) status (fetchPages (eldoradoOrderSync e.maxPages)
          (e.over (s.feedAfter e)) start (calls + 1) n l) := by
      intro next hfetch hn
      rw [fetchPages_empty start calls hfetch, finish_backfill (l := { l.beforeFetch
        ((e.over (s.feedAfter e)).pause n) with checkpoint := l.checkpoint }) hat.1]
      refine ⟨hstatus, hclock', .inr ⟨?_, p, hat, hinside, hdone⟩⟩
      show (Except.ok (l.fetchedAny && _) : Except RunError Bool) ≠ .ok true
      rw [hfetched hn, Bool.false_and]
      exact nofun
    rcases hfail : e.fails n with _ | _
    case true =>
      have hfetch := eldoradoFetchPage_failed (s.feedAfter e) l.checkpoint
      rw [← hfail] at hfetch
      apply hempty "" hfetch
      by_contra hn
      have hlt : (s.page + n) * eldoradoPageSize < (s.feedAfter e).length := by
        rw [← hp]
        exact hinside.resolve_left (by omega)
      exact absurd ((hreads.2.2.1 n (Nat.pos_of_ne_zero hn) hlt).symm.trans hfail) nofun
    have hfetch := eldoradoFetchPage_backfill (s.feedAfter e) hat
    rw [← hfail] at hfetch
    by_cases hnil : pageOf eldoradoPageSize p (s.feedAfter e) = []
    · have hlen := (pageOf_eq_nil_iff (by decide)).mp hnil
      rw [hnil] at hfetch
      exact hempty _ hfetch (by omega)
    have hlt : p * eldoradoPageSize < (s.feedAfter e).length := by
      rw [pageOf_eq_nil_iff (by decide), Nat.not_le] at hnil
      exact hnil
    obtain ⟨next, hnext⟩ : ∃ next, next = if (p + 1) * eldoradoPageSize < (s.feedAfter e).length
        then cursorText (p + 1) else "" := ⟨_, rfl⟩
    rw [← hnext] at hfetch
    rcases hread : readPage (eldoradoOrderSync e.maxPages) (e.over (s.feedAfter e)) start n
        (pageOf eldoradoPageSize p (s.feedAfter e)) next
        { l.beforeFetch ((e.over (s.feedAfter e)).pause n) with checkpoint := l.checkpoint }
      with exc | ⟨l₁, caughtUp⟩
    · -- the page is rolled back
      rw [fetchPages_rolledBack calls hfetch hnil hread]
      exact ⟨hstatus, hclock', .inr ⟨nofun, p, hat, hinside, hdone⟩⟩
    obtain ⟨hfetched₁, hnow₁⟩ := readPage_fetched hread
    have hnow : since ≤ l₁.now := by
      rw [hnow₁]
      exact hclock'
    obtain ⟨hcaught, hmode₁, hstatus₁, hraws₁, hpage⟩ :=
      backfillPage (l := { l.beforeFetch ((e.over (s.feedAfter e)).pause n) with
        checkpoint := l.checkpoint }) hstart hreads hp hat.1 hdone hclock' hfailed hraws hlt hread
    replace hstatus₁ : l₁.checkpoint.status = status := hstatus₁.trans hstatus
    rw [fetchPages_read _ calls hfetch hnil hread, hcaught]
    rcases hpage with ⟨hflag, hmore, hcp, hdone₁⟩ | ⟨hflag, hcursor, hdone₁⟩
    · rw [if_pos hmore] at hnext
      rw [hflag, Bool.true_or, Bool.true_or, if_pos rfl, finish_backfill hmode₁, hnext,
        beq_eq_false_iff_ne.mpr (cursorText_ne_empty p), Bool.and_false]
      exact ⟨hstatus₁, hnow, .inr ⟨nofun, p, by rw [hcp]; exact hat, hinside, hdone₁⟩⟩
    · rw [hflag, Bool.false_or, Bool.false_or]
      by_cases hmore : (p + 1) * eldoradoPageSize < (s.feedAfter e).length
      · rw [if_pos hmore] at hnext
        have hnextNe : next ≠ "" := by
          rw [hnext]
          exact cursorText_ne_empty p
        have hat₁ : AtBackfill (p + 1) l₁.checkpoint := by
          refine ⟨hmode₁, ?_⟩
          rw [hcursor, hnext, if_neg (Nat.succ_ne_zero p)]
        rw [if_neg (by simpa using hnextNe)]
        by_cases hlimit : pageLimitReached (eldoradoOrderSync e.maxPages) l₁.pagesFetched = true
        · rw [if_pos hlimit, finish_backfill (by exact hmode₁), beq_eq_false_iff_ne.mpr hnextNe,
            Bool.and_false]
          exact ⟨hstatus₁, hnow, .inr ⟨nofun, p + 1, hat₁, .inr hmore, hdone₁⟩⟩
        · rw [if_neg hlimit]
          exact ih (by omega) hat₁ (.inr hmore) hdone₁ hnow hflag
            (fun h => absurd h (Nat.succ_ne_zero n)) hstatus₁ hraws₁
      · rw [if_neg hmore] at hnext
        rw [List.take_of_length_le (Nat.not_lt.mp hmore)] at hdone₁
        rw [hnext, beq_self_eq_true, if_pos rfl, finish_backfill hmode₁, hfetched₁]
        exact ⟨hstatus₁, hnow, .inl ⟨rfl, hmode₁, hdone₁⟩⟩

theorem Stands.page_eq {p : Nat} (h : Stands s p) : s.page = p := by
  unfold BackfillState.page
  rw [h.checkpoint.2]
  rcases p with - | p
  · rfl
  · rw [if_neg (Nat.succ_ne_zero p), cursorText_length]

/-- What a run does with the rows of a backfill that is not complete. -/
theorem backfillStep_rows (h : ¬s.Completed) :
    ∃ out : Except RunError Bool × Loop EldoradoOrder δ,
      out = fetchLoop (eldoradoOrderSync e.maxPages) (e.over (s.feedAfter e))
          (startLoop s.db .backfill) ∧
        (backfillStep s e).db.raws = out.2.raws ∧ (backfillStep s e).db.now = out.2.now ∧
        (out.1 = .ok true → (backfillStep s e).Completed) ∧
        (out.1 ≠ .ok true →
          (backfillStep s e).db.checkpoint .backfill = out.2.checkpoint) := by
  refine ⟨_, rfl, ?_⟩
  unfold backfillStep runSync
  dsimp only
  rw [if_neg fun hc => h hc.2]
  rcases fetchLoop (eldoradoOrderSync e.maxPages) (e.over (s.feedAfter e))
    (startLoop s.db .backfill) with ⟨exc | exhausted, l⟩
  · exact ⟨rfl, rfl, nofun, fun _ => rfl⟩
  · dsimp only
    by_cases hexhausted : exhausted = true
    · rw [if_pos ⟨rfl, hexhausted⟩]
      obtain ⟨hraws, hnow, hcp⟩ := seedIncremental_rows
        ((afterLoop s.db .backfill l).saveCheckpoint .backfill
          { l.checkpoint with status := .completed })
        { l.checkpoint with status := .completed }
      exact ⟨hraws, hnow, fun _ => congrArg SyncCheckpoint.status hcp,
        fun hne => absurd (by rw [hexhausted]) hne⟩
    · rw [if_neg fun hc => hexhausted hc.2]
      exact ⟨rfl, rfl, fun heq => absurd (Except.ok.inj heq) hexhausted, fun _ => rfl⟩

/-- **One run** that meets the condition: it completes the backfill at its end,
or leaves it standing before a page. -/
theorem backfillStep_honest {p : Nat} (hnot : ¬s.Completed) (hstands : Stands s p)
    (hreads : ReadsToTheEnd s e) :
    ((backfillStep s e).Completed →
        AllFinal s.since (backfillStep s e).db.raws (s.feedAfter e)) ∧
      (¬(backfillStep s e).Completed → ∃ p', Stands (backfillStep s e) p') := by
  obtain ⟨out, hout, hraws, hnow, hcompletes, hkeeps⟩ := backfillStep_rows (e := e) hnot
  have hinside : p = 0 ∨ p * eldoradoPageSize < (s.feedAfter e).length := by
    refine hstands.inside.imp_right fun hlt => ?_
    rw [BackfillState.feedAfter, List.length_append]
    omega
  have htake : (s.feedAfter e).take (p * eldoradoPageSize)
      = s.feed.take (p * eldoradoPageSize) := by
    apply List.take_append_of_le_length
    rcases hstands.inside with rfl | hlt
    · rw [Nat.zero_mul]
      exact Nat.zero_le _
    · exact Nat.le_of_lt hlt
  have hleaves : Leaves s.since (s.feedAfter e) (s.db.checkpoint .backfill).status out := by
    rw [hout]
    unfold fetchLoop
    split
    · exact ⟨rfl, hstands.clock, .inr ⟨nofun, p, hstands.checkpoint, hinside,
        htake.symm ▸ hstands.done⟩⟩
    · exact backfillPages_leaves (l := startLoop s.db .backfill) hstands.checkpoint.1 hreads
        (by rw [hstands.page_eq, Nat.add_zero]) hstands.checkpoint hinside
        (htake.symm ▸ hstands.done) hstands.clock rfl (fun _ => rfl) rfl fun _ _ => rfl
  obtain ⟨hstatus, hclock, ⟨hend, -, hall⟩ | ⟨hend, p', hat, hinside', hdone⟩⟩ := hleaves
  · refine ⟨fun _ => ?_, fun hne => absurd (hcompletes hend) hne⟩
    rw [hraws]
    exact hall
  · have hcp := hkeeps hend
    refine ⟨fun hcompleted => ?_, fun _ => ⟨p', ?_, hinside', ?_, ?_⟩⟩
    · rw [BackfillState.Completed, hcp, hstatus] at hcompleted
      exact absurd hcompleted hnot
    · rw [hcp]
      exact hat
    · rw [hraws]
      exact hdone
    · rw [hnow]
      exact hclock

/-- **A backfill is completed at its end.**  From any rows and any feed, in every
sequence of runs of which those before its completion meet the condition, the
run that completes the backfill does so honestly. -/
theorem backfill_honest (db : SyncDb EldoradoOrder δ) (feed : List EldoradoOrder)
    (es : List (BackfillRun δ))
    (h : Along backfillStep (fun s e => s.Completed ∨ ReadsToTheEnd s e)
      (BackfillState.init db feed) es) :
    Along backfillStep CompletesHonestly (BackfillState.init db feed) es := by
  have hinit : Stands (BackfillState.init db feed) 0 := by
    have hcp : (BackfillState.init db feed).db.checkpoint .backfill = { mode := .backfill } := by
      show (Function.update db.checkpoints .backfill none .backfill).getD _ = _
      rw [Function.update_self]
      rfl
    refine ⟨?_, .inl rfl, ?_, Nat.le_refl _⟩
    · rw [hcp]
      exact ⟨rfl, rfl⟩
    · rw [Nat.zero_mul]
      exact fun o ho => absurd ho List.not_mem_nil
  refine along_of_along (I := fun s : BackfillState δ => s.Completed ∨ ∃ p, Stands s p)
    (fun s e hs hc => ?_) (fun s e hs hc => ?_) (.inr ⟨0, hinit⟩) h
  · by_cases hcompleted : (backfillStep s e).Completed
    · exact .inl hcompleted
    right
    by_cases hbefore : s.Completed
    · -- nothing is run any more
      refine absurd ?_ hcompleted
      show ((runSync _ _ _ .backfill s.db).checkpoint .backfill).status = _
      rw [runSync, if_pos ⟨rfl, hbefore⟩]
      exact hbefore
    · obtain ⟨p, hstands⟩ := hs.resolve_left hbefore
      exact (backfillStep_honest hbefore hstands (hc.resolve_left hbefore)).2 hcompleted
  · intro hbefore hcompleted
    obtain ⟨p, hstands⟩ := hs.resolve_left hbefore
    exact (backfillStep_honest hbefore hstands (hc.resolve_left hbefore)).1 hcompleted

/-- An account before its backfill. -/
def untouchedDb : SyncDb EldoradoOrder Unit where
  now := 100
  domain := ()

/-- What a run meets when every order applies. -/
def parsingSession : Session EldoradoOrder Unit where
  fetchPage _ cp := (.ok ([], ""), cp)
  parseAndApply _ _ d := (.ok .created, d)
  calls := 5

/-- A feed of two pages. -/
def twoPages : List EldoradoOrder :=
  (List.range 21).map fun i => { id := natText i }

/-- A run that meets no failure, over a feed of one order. -/
def plainRun : BackfillRun Unit where
  session := parsingSession

theorem plainRun_reads : ReadsToTheEnd (BackfillState.init untouchedDb [{ id := "1" }]) plainRun := by
  refine ⟨by decide, nofun, fun _ _ _ => rfl, fun n _ _ o _ => .inr fun payload _ => ?_⟩
  exact .inr (.inl fun _ => rfl)

theorem backfill_honest_at_plain :
    Along backfillStep CompletesHonestly (BackfillState.init untouchedDb [{ id := "1" }])
      [plainRun] :=
  backfill_honest untouchedDb [{ id := "1" }] [plainRun] ⟨.inr plainRun_reads, trivial⟩

/-- The request for the second page fails. -/
def failingRun : BackfillRun Unit where
  fails n := n == 1
  session := parsingSession

set_option maxRecDepth 2000 in
/-- The run takes the empty page of the failed request for the end of the
feed. -/
theorem backfill_honest_fails :
    ¬Along backfillStep CompletesHonestly (BackfillState.init untouchedDb twoPages)
      [failingRun] := by
  intro h
  have hmissing : (backfillStep (BackfillState.init untouchedDb twoPages) failingRun).db.raws "20"
      = none := by
    apply Option.isNone_iff_eq_none.mp
    decide
  have hcompleted :
      (backfillStep (BackfillState.init untouchedDb twoPages) failingRun).Completed := by
    show ((backfillStep _ _).db.checkpoint .backfill).status = .completed
    decide
  have hkey : eldoradoKey { id := "20" } = "20" := by decide
  obtain ⟨⟨raw, hraw, -⟩, -⟩ := h.1 nofun hcompleted { id := "20" } (by decide)
  rw [hkey, hmissing] at hraw
  cases hraw

end Runs

end Sda.Sync
