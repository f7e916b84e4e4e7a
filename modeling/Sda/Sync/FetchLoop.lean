/-
Sda/Sync/FetchLoop.lean

The sync run (`BaseSyncService.run`, sync/services/base.py): page through the
remote items of one account and resource, store each as a raw payload, apply
it, advance the checkpoint after every page.

A provider service is a `Service`; what one run of it meets (the pages, the
outcome of every application, how long each call takes, when the worker dies)
is a `Session`.  A page is one transaction: an exception in it takes back its
raw payloads, while what `fetch_page` saved in the checkpoint stays.

`domain` stands for the rows `parse_and_apply` writes.  The process-only phase
reads no remote page and is not here.

* `ingestRaw`, `tryParse` — one payload;
* `ingestItems`, `readPage` — one page;
* `fetchLoop` — `_fetch_loop`;
* `runSync` — `run`, up to what a completed backfill does afterwards.
-/
import Mathlib.Logic.Function.Basic
import Sda.Lib.Text
import Sda.Pool.Db
import Sda.Sync.Models

namespace Sda.Sync

/-- What `parse_and_apply` returns. -/
inductive ParseResult
  | created | updated | unchanged
  deriving DecidableEq, Repr

/-- What `prepare_item` comes to. -/
inductive Prepared (ι : Type)
  | item (payload : ι)
  | skipItem
  | stopSync (message : String)
  | raises (exc : PyError)
  deriving DecidableEq, Repr

/-- Why a run fails. -/
inductive RunError
  | stopSync (message : String)
  | raised (exc : PyError)
  /-- The worker dies between two pages. -/
  | killed
  deriving DecidableEq, Repr

/-- The hooks of a provider service. -/
structure Service (ι : Type) where
  extractRemoteId : ι → String
  extractRemoteTimestamp : ι → Option Nat := fun _ => none
  /-- The first argument is `_stop_timestamp`. -/
  isAlreadySeen : Option Nat → ι → String → Bool := fun _ _ _ => false
  shouldSkipItem : ι → Bool := fun _ => false
  maxParseRetryAttempts : Nat := 5
  maxPages : Option Nat := none

/-- What one run meets; the number is that of the call of `fetch_page`. -/
structure Session (ι δ : Type) where
  /-- The items and the next cursor; the checkpoint with what the call saved. -/
  fetchPage : Nat → SyncCheckpoint → Except PyError (List ι × String) × SyncCheckpoint
  prepareItem : Nat → ι → Prepared ι := fun _ => .item
  parseAndApply : Nat → ι → δ → Except String ParseResult × δ
  phase : SyncPhase := .full
  pause : Nat → Nat := fun _ => 0
  /-- The calls the worker lives for. -/
  calls : Nat

/-! ### One payload -/

section Payload

variable {ι δ : Type} [DecidableEq ι]

/-- **`_ingest_raw`**. -/
def ingestRaw (now : Nat) (item : ι) : Option (RawPayload ι) → RawPayload ι
  | none => { payload := item, firstSeenAt := now, lastSeenAt := now, fetchedAt := now }
  | some raw =>
    if raw.payload ≠ item ∨ raw.parseStatus = .failed then
      { raw with
        payload := item
        parseStatus := .pending
        parseError := ""
        parsedAt := none
        lastSeenAt := now
        fetchedAt := now
        -- new content gets a fresh retry budget
        parseAttempts := if raw.payload ≠ item then 0 else raw.parseAttempts }
    else
      { raw with lastSeenAt := now, fetchedAt := now }

/-- The counters of a run after an application. -/
def SyncRun.countResult (run : SyncRun) : Except String ParseResult → SyncRun
  | .ok .created => { run with createdCount := run.createdCount + 1 }
  | .ok .updated => { run with updatedCount := run.updatedCount + 1 }
  | .ok .unchanged => run
  | .error _ => { run with errorCount := run.errorCount + 1 }

/-- The raw payload after an application. -/
def RawPayload.settle (raw : RawPayload ι) (now : Nat) : Except String ParseResult → RawPayload ι
  | .ok _ =>
    { raw with parseStatus := .parsed, parsedAt := some now, parseError := "", parseAttempts := 0 }
  | .error message =>
    { raw with
      parseStatus := .failed
      parseError := message
      parseAttempts := raw.parseAttempts + 1 }

/-- **`_try_parse`**: the raw payload, the domain, the run, and whether the
payload applied. -/
def tryParse (parse : ι → δ → Except String ParseResult × δ) (now : Nat) (raw : RawPayload ι)
    (domain : δ) (run : SyncRun) : RawPayload ι × δ × SyncRun × Bool :=
  if raw.parseStatus ≠ .pending then
    (raw, domain, run, true)
  else
    let (result, domain') := parse raw.payload domain
    (raw.settle now result, domain', run.countResult result, result.isOk)

/-- **`_parse_should_block`**. -/
def parseShouldBlock (svc : Service ι) (raw : RawPayload ι) : Bool :=
  raw.parseAttempts < svc.maxParseRetryAttempts

omit [DecidableEq ι] in
@[simp] theorem settle_payload (raw : RawPayload ι) (now : Nat)
    (result : Except String ParseResult) : (raw.settle now result).payload = raw.payload := by
  cases result <;> rfl

@[simp] theorem ingestRaw_payload (now : Nat) (item : ι) (old : Option (RawPayload ι)) :
    (ingestRaw now item old).payload = item := by
  rcases old with - | raw
  · rfl
  · by_cases hchange : raw.payload ≠ item ∨ raw.parseStatus = .failed
    · rw [ingestRaw, if_pos hchange]
    · rw [ingestRaw, if_neg hchange]
      exact not_not.mp fun hne => hchange (.inl hne)

end Payload

/-! ### One page -/

/-- The variables of the loop over a page. -/
structure Page (ι δ : Type) where
  raws : String → Option (RawPayload ι)
  domain : δ
  run : SyncRun
  /-- `first_remote_id` and `first_remote_ts`. -/
  first : Option (String × Option Nat) := none
  /-- `last_remote_id` and `last_remote_ts`. -/
  last : Option (String × Option Nat) := none
  caughtUp : Bool := false
  pageParseFailed : Bool := false

section PageLoop

variable {ι δ : Type} [DecidableEq ι]

/-- `_validated_remote_id`. -/
def validatedRemoteId (svc : Service ι) (item : ι) : Except RunError String :=
  if stripText (svc.extractRemoteId item) = "" then
    .error (.raised (.valueError "extracted an empty remote_id"))
  else
    .ok (stripText (svc.extractRemoteId item))

/-- `_note_quarantined_payload`. -/
def SyncRun.noteQuarantined (run : SyncRun) (remoteId : String) : SyncRun :=
  if remoteId ∈ run.quarantinedRemoteIds then run
  else { run with quarantinedRemoteIds := run.quarantinedRemoteIds ++ [remoteId] }

/-- Ingest, and parse unless the phase is ingest-only. -/
def applyItem (svc : Service ι) (ses : Session ι δ) (now n : Nat) (remoteId : String) (payload : ι)
    (pg : Page ι δ) : Page ι δ :=
  let raw := ingestRaw now payload (pg.raws remoteId)
  if ses.phase = .ingest then
    { pg with raws := Function.update pg.raws remoteId (some raw) }
  else
    let (raw', domain, run, applied) := tryParse (ses.parseAndApply n) now raw pg.domain pg.run
    { pg with
      raws := Function.update pg.raws remoteId (some raw')
      domain
      run := if applied || parseShouldBlock svc raw' then run else run.noteQuarantined remoteId
      pageParseFailed := pg.pageParseFailed || (!applied && parseShouldBlock svc raw') }

/-- An item is done with. -/
def Page.done (pg : Page ι δ) (remoteId : String) (timestamp : Option Nat) (errors : Nat) :
    Page ι δ :=
  { pg with
    last := some (remoteId, timestamp)
    run := { pg.run with
      processedCount := pg.run.processedCount + 1
      errorCount := pg.run.errorCount + errors } }

/-- The body of the loop, for an item that was not seen before. -/
def ingestItem (svc : Service ι) (ses : Session ι δ) (now n : Nat) (pg : Page ι δ) (item : ι) :
    Except RunError (Page ι δ) :=
  match validatedRemoteId svc item with
  | .error e => .error e
  | .ok remoteId =>
    let timestamp := svc.extractRemoteTimestamp item
    let pg := { pg with first := pg.first.or (some (remoteId, timestamp)) }
    if svc.shouldSkipItem item then
      .ok (pg.done remoteId timestamp 0)
    else
      match ses.prepareItem n item with
      | .skipItem => .ok (pg.done remoteId timestamp 1)
      | .stopSync message => .error (.stopSync message)
      | .raises exc => .error (.raised exc)
      | .item payload =>
        .ok ((applyItem svc ses now n remoteId payload pg).done remoteId timestamp 0)

/-- `is_incremental and self.is_already_seen(item, stop_remote_id)`; `start` is
the checkpoint at the start of the run. -/
def seen (svc : Service ι) (start : SyncCheckpoint) (stopTimestamp : Option Nat) (item : ι) :
    Bool :=
  start.mode == .incremental && svc.isAlreadySeen stopTimestamp item start.lastSeenRemoteId

/-- `for item in items`. -/
def ingestItems (svc : Service ι) (ses : Session ι δ) (isSeen : ι → Bool) (now n : Nat) :
    List ι → Page ι δ → Except RunError (Page ι δ)
  | [], pg => .ok pg
  | item :: items, pg =>
    if isSeen item then
      .ok { pg with caughtUp := true }
    else
      match ingestItem svc ses now n pg item with
      | .error e => .error e
      | .ok pg' => ingestItems svc ses isSeen now n items pg'

end PageLoop

/-! ### The fetch loop -/

/-- The variables of `_fetch_loop`. -/
structure Loop (ι δ : Type) where
  now : Nat
  raws : String → Option (RawPayload ι)
  domain : δ
  checkpoint : SyncCheckpoint
  run : SyncRun
  /-- `_stop_timestamp` of the service. -/
  stopTimestamp : Option Nat := none
  first : Option (String × Option Nat) := none
  fetchedAny : Bool := false
  parseFailedAny : Bool := false
  pagesFetched : Nat := 0

section FetchLoop

variable {ι δ : Type} [DecidableEq ι]

/-- The checkpoint after a page: the newest item of the run in incremental
mode, the last of the page otherwise. -/
def advancePage (checkpoint : SyncCheckpoint) (pg : Page ι δ) (nextCursor : String) (now : Nat) :
    SyncCheckpoint :=
  match pg.last with
  | none => checkpoint
  | some last =>
    let mark := if checkpoint.mode = .incremental then pg.first.getD last else last
    checkpoint.advance mark.1 mark.2 nextCursor now

/-- The transaction of one page, and whether it caught up. -/
def readPage (svc : Service ι) (ses : Session ι δ) (start : SyncCheckpoint) (n : Nat)
    (items : List ι) (nextCursor : String) (l : Loop ι δ) :
    Except RunError (Loop ι δ × Bool) :=
  match ingestItems svc ses (seen svc start l.stopTimestamp) l.now n items
      { raws := l.raws, domain := l.domain, run := l.run, first := l.first } with
  | .error e => .error e
  | .ok pg =>
    let failed := l.parseFailedAny || pg.pageParseFailed
    .ok ({ l with
      raws := pg.raws
      domain := pg.domain
      run := { pg.run with
        blockedOnParseFailure := pg.run.blockedOnParseFailure || pg.pageParseFailed }
      first := pg.first
      fetchedAny := true
      parseFailedAny := failed
      pagesFetched := l.pagesFetched + 1
      checkpoint := if failed then l.checkpoint else advancePage l.checkpoint pg nextCursor l.now },
      pg.caughtUp)

/-- The end of `_fetch_loop`: an incremental run starts over next time. -/
def Loop.finish (l : Loop ι δ) (nextCursor : String) : Except RunError Bool × Loop ι δ :=
  (.ok (l.fetchedAny && nextCursor == ""),
    if l.checkpoint.mode = .incremental then
      { l with checkpoint := { l.checkpoint with cursor := "" } }
    else l)

/-- Is the page limit reached? -/
def pageLimitReached (svc : Service ι) (pagesFetched : Nat) : Bool :=
  match svc.maxPages with
  | none => false
  | some limit => decide (limit ≤ pagesFetched)

/-- What precedes a request: time passes, and an incremental service snapshots
the first timestamp it finds in the checkpoint. -/
def Loop.beforeFetch (l : Loop ι δ) (pause : Nat) : Loop ι δ :=
  { l with
    now := l.now + pause
    stopTimestamp :=
      if l.checkpoint.mode = .incremental then
        l.stopTimestamp.or l.checkpoint.lastSeenRemoteTimestamp
      else l.stopTimestamp }

/-- The loop of `_fetch_loop`, from call `n` on: the exhaustion or the error,
and the variables it leaves. -/
def fetchPages (svc : Service ι) (ses : Session ι δ) (start : SyncCheckpoint) :
    Nat → Nat → Loop ι δ → Except RunError Bool × Loop ι δ
  | 0, _, l => (.error .killed, l)
  | calls + 1, n, l =>
    let l := l.beforeFetch (ses.pause n)
    match ses.fetchPage n l.checkpoint with
    | (.error exc, checkpoint) => (.error (.raised exc), { l with checkpoint })
    | (.ok (items, nextCursor), checkpoint) =>
      if items.isEmpty then
        { l with checkpoint }.finish nextCursor
      else
        match readPage svc ses start n items nextCursor { l with checkpoint } with
        | .error e => (.error e, { l with checkpoint })
        | .ok (l', caughtUp) =>
          if l'.parseFailedAny || caughtUp || nextCursor == "" then
            l'.finish nextCursor
          else if pageLimitReached svc l'.pagesFetched then
            { l' with run := { l'.run with pageLimitReached := svc.maxPages } }.finish nextCursor
          else
            fetchPages svc ses start calls (n + 1) l'

/-- One call of the loop, with the checkpoint that the request leaves. -/
theorem fetchPages_succ (svc : Service ι) (ses : Session ι δ) (start : SyncCheckpoint)
    (calls n : Nat) (l : Loop ι δ) :
    fetchPages svc ses start (calls + 1) n l =
      match ses.fetchPage n (l.beforeFetch (ses.pause n)).checkpoint with
      | (.error exc, checkpoint) =>
        (.error (.raised exc), { l.beforeFetch (ses.pause n) with checkpoint })
      | (.ok (items, nextCursor), checkpoint) =>
        if items.isEmpty then
          { l.beforeFetch (ses.pause n) with checkpoint }.finish nextCursor
        else
          match readPage svc ses start n items nextCursor
            { l.beforeFetch (ses.pause n) with checkpoint } with
          | .error e => (.error e, { l.beforeFetch (ses.pause n) with checkpoint })
          | .ok (l', caughtUp) =>
            if l'.parseFailedAny || caughtUp || nextCursor == "" then
              l'.finish nextCursor
            else if pageLimitReached svc l'.pagesFetched then
              { l' with run := { l'.run with pageLimitReached := svc.maxPages } }.finish nextCursor
            else
              fetchPages svc ses start calls (n + 1) l' := rfl

/-- **`_fetch_loop`**. -/
def fetchLoop (svc : Service ι) (ses : Session ι δ) (l : Loop ι δ) :
    Except RunError Bool × Loop ι δ :=
  if svc.maxPages = some 0 then
    (.error (.raised (.valueError "max_pages must be a positive integer.")), l)
  else
    fetchPages svc ses l.checkpoint ses.calls 0 l

end FetchLoop

/-! ### A run -/

/-- The rows of one account and resource. -/
structure SyncDb (ι δ : Type) where
  now : Nat
  checkpoints : SyncMode → Option SyncCheckpoint := fun _ => none
  raws : String → Option (RawPayload ι) := fun _ => none
  domain : δ
  runs : List SyncRun := []

section Run

variable {ι δ : Type} [DecidableEq ι]

/-- `_get_or_create_checkpoint`. -/
def SyncDb.checkpoint (db : SyncDb ι δ) (mode : SyncMode) : SyncCheckpoint :=
  (db.checkpoints mode).getD { mode }

def SyncDb.saveCheckpoint (db : SyncDb ι δ) (mode : SyncMode) (cp : SyncCheckpoint) : SyncDb ι δ :=
  { db with checkpoints := Function.update db.checkpoints mode (some cp) }

/-- `_seed_incremental_checkpoint`: an incremental checkpoint that has a
bookmark keeps it. -/
def seedIncremental (db : SyncDb ι δ) (backfill : SyncCheckpoint) : SyncDb ι δ :=
  let cp := db.checkpoint .incremental
  if cp.lastSeenRemoteId = "" then
    db.saveCheckpoint .incremental { cp with
      lastSeenRemoteId := backfill.lastSeenRemoteId
      lastSeenRemoteTimestamp := backfill.lastSeenRemoteTimestamp }
  else
    db.saveCheckpoint .incremental cp

/-- `SyncRun.finish`. -/
def SyncRun.finish (run : SyncRun) (status : SyncRunStatus) (now : Nat) : SyncRun :=
  { run with status, finishedAt := some now }

/-- The transient keys of `meta` are cleared at the start of a run. -/
def SyncCheckpoint.clearTransient (cp : SyncCheckpoint) : SyncCheckpoint :=
  { cp with incrementalPage := none, currentStatus := none }

/-- What a failing run writes into its record. -/
def SyncRun.fail (run : SyncRun) (now : Nat) : RunError → SyncRun
  | .stopSync message => { run with stopReason := message }.finish .failed now
  | .raised _ => run.finish .failed now
  -- nobody is left to write it
  | .killed => run

/-- The variables of the fetch loop at the start of a run. -/
def startLoop (db : SyncDb ι δ) (mode : SyncMode) : Loop ι δ where
  now := db.now
  raws := db.raws
  domain := db.domain
  checkpoint := (db.checkpoint mode).clearTransient
  run := { mode, createdAt := db.now }

/-- The rows after the fetch loop. -/
def afterLoop (db : SyncDb ι δ) (mode : SyncMode) (l : Loop ι δ) : SyncDb ι δ :=
  { db with now := l.now, raws := l.raws, domain := l.domain }.saveCheckpoint mode l.checkpoint

/-- **`run`**, for the phases that fetch.  `reconcile` is what a completed
backfill does with the rows it did not see. -/
def runSync (svc : Service ι) (ses : Session ι δ)
    (reconcile : SyncRun → SyncDb ι δ → SyncRun × SyncDb ι δ) (mode : SyncMode)
    (db : SyncDb ι δ) : SyncDb ι δ :=
  if mode = .backfill ∧ (db.checkpoint mode).status = .completed then
    db
  else
    match fetchLoop svc ses (startLoop db mode) with
    | (.error e, l) =>
      { afterLoop db mode l with runs := db.runs ++ [l.run.fail l.now e] }
    | (.ok exhausted, l) =>
      if mode = .backfill ∧ exhausted = true then
        let completed := { l.checkpoint with status := .completed }
        let saved := (afterLoop db mode l).saveCheckpoint mode completed
        let (run, reconciled) := reconcile l.run (seedIncremental saved completed)
        { reconciled with runs := db.runs ++ [run.finish .completed l.now] }
      else
        { afterLoop db mode l with runs := db.runs ++ [l.run.finish .completed l.now] }

/-- Orders are not reconciled. -/
def noReconcile (run : SyncRun) (db : SyncDb ι δ) : SyncRun × SyncDb ι δ :=
  (run, db)

end Run

end Sda.Sync
