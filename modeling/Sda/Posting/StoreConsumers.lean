/-
Sda/Posting/StoreConsumers.lean

The store threads of a posting job as writers of item statuses
(services/stock/consumer.py: `consume_store`, `consume_store_pa` and what they call).

An item is an object shared by the threads and a row of the database: an assignment
changes the object, a save that does not raise copies it to the row.  A thread is code
between its waits on the queue of its store; what the database, the payload builder and
the marketplace answer is a record per item and per store, and any of these calls may
raise.

* `streamItem` — one item at a time;
* `multiCredBatch`, `relayBatch`, `failDisabled` — the batches of `consume_store`, and the
  disabled relay;
* `bulkItem`, `flushBulk` — `consume_store_pa`;
* `receive`, `finish` — an entry and the sentinel, by the path the thread is on.
-/
import Sda.Lib.ForkJoin
import Sda.Pool.Db

namespace Sda.Stock

open Prog ForkJoin

/-! ### Items -/

/-- `PostingJobItemStatus`. -/
inductive ItemStatus
  | pending | processing | success | failed | skipped
  deriving DecidableEq, Repr

/-- PENDING or PROCESSING: the statuses that `_fail_remaining_items` and `_finalize_job`
look for. -/
def ItemStatus.isOpen : ItemStatus → Bool
  | .pending | .processing => true
  | _ => false

/-- `PostingJobStatus`. -/
inductive JobStatus
  | pending | running | completed | failed | cancelled
  deriving DecidableEq, Repr

/-- `raw_data`, as far as the posting path reads it. -/
inductive RawData
  | empty
  /-- `raw_data['source'] == 'manual'`. -/
  | manual
  /-- `raw_data['source'] == 'tracker_sheet'`. -/
  | trackerSheet
  | other
  deriving DecidableEq, Repr

/-- An `OwnedProduct`. -/
structure StockProduct where
  rawData : RawData
  /-- The provider of its source account. -/
  source : Option Provider
  deriving DecidableEq, Repr

/-- A `PostingJobItem` as it is loaded; the status is on the board. -/
structure JobItem where
  id : Nat
  store : Nat
  login : String
  marketplace : Provider
  ownedProduct : Option StockProduct
  deriving DecidableEq, Repr

/-- The counts and the status of a `PostingJob`. -/
structure JobRow where
  status : JobStatus := .running
  successCount : Nat := 0
  failCount : Nat := 0
  completed : Bool := false
  deriving DecidableEq, Repr

/-- What the threads of a job share. -/
structure Board where
  /-- The status of an item object. -/
  memory : Nat → ItemStatus
  /-- The status of an item row. -/
  stored : Nat → ItemStatus
  job : JobRow := {}

/-- What a thread does to the board. -/
inductive Action
  /-- `item.status = …`. -/
  | assign (item : Nat) (status : ItemStatus)
  /-- `item.save(update_fields=['status', …])`. -/
  | save (item : Nat)
  /-- The orphan update of `_finalize_job`. -/
  | failOrphans (items : List Nat)
  /-- The counts and the status that `_finalize_job` saves. -/
  | closeJob (items : List Nat) (cancelled : Bool)
  deriving DecidableEq

def act : Action → Board → Board
  | .assign i status, b => { b with memory := Function.update b.memory i status }
  | .save i, b => { b with stored := Function.update b.stored i (b.memory i) }
  | .failOrphans items, b =>
    { b with stored := fun i =>
        if i ∈ items ∧ (b.stored i).isOpen then .failed else b.stored i }
  | .closeJob items cancelled, b =>
    { b with job :=
        { status := if cancelled then .cancelled else .completed
          successCount := items.countP fun i => b.stored i = .success
          failCount := items.countP fun i => b.stored i = .failed
          completed := true } }

/-! ### What a thread meets -/

/-- How a create ends that does not raise. -/
inductive Created
  | created
  /-- The variant fallback has created and persisted an offer. -/
  | viaFallback
  | refused
  deriving DecidableEq, Repr

/-- What a store thread meets on one item. -/
structure ItemAnswers where
  /-- `_is_cancelled`. -/
  cancelled : Except PyError Bool := .ok false
  rateLimited : Bool := false
  /-- The save of a status. -/
  save : ItemStatus → Except PyError Unit := fun _ => .ok ()
  /-- `build_item_payload`; `false` when it answers `ok: False`. -/
  build : Except PyError Bool := .ok true
  /-- The create with its retries, the fallback, the extraction of the id and publishing. -/
  create : Except PyError Created := .ok .created
  /-- Did the relay accept the row? -/
  accepted : Bool := true
  /-- Normalizing the response and persisting. -/
  persist : Except PyError Unit := .ok ()
  release : Except PyError Unit := .ok ()
  /-- `PostingLog.objects.create`. -/
  log : Except PyError Unit := .ok ()

/-- What a store thread meets besides. -/
structure StoreAnswers where
  /-- `close_old_connections()` at the beginning. -/
  opened : Except PyError Unit := .ok ()
  /-- `close_old_connections()` at the end. -/
  closed : Except PyError Unit := .ok ()
  /-- The variant context and its router. -/
  routing : Except PyError Unit := .ok ()
  /-- The PlayerAuctions client: does it use the official API only? -/
  client : Except PyError Bool := .ok false
  /-- The relay token: is there one, and a store slug? -/
  token : Except PyError Bool := .ok true
  /-- The relay posts, the second pass included. -/
  post : Except PyError Unit := .ok ()
  /-- The create of the merged offer. -/
  batchCreate : Except PyError Unit := .ok ()
  /-- Normalizing the response and creating the merged listing. -/
  batchPersist : Except PyError Unit := .ok ()
  batchRelease : Except PyError Unit := .ok ()
  batchLog : Except PyError Unit := .ok ()
  item : Nat → ItemAnswers := fun _ => {}

/-- The settings that choose the path of a thread. -/
structure StockSettings where
  /-- `job.settings['_manual']['source_type'] == 'manual'`. -/
  manual : Bool := false
  /-- `_pa_legacy_relay_disabled()`. -/
  relayDisabled : Bool := true
  /-- `pa_mode == 'single'` in the settings of a store. -/
  paSingle : Nat → Bool := fun _ => false

/-- The code of a thread between two waits. -/
abbrev Code (α : Type) := Prog PyError (List Action) α

/-- An assignment of the status, and the save after it. -/
def setStatus (i : Nat) (status : ItemStatus) (saved : Except PyError Unit) : Code Unit := do
  emit (.assign i status)
  known saved
  emit (.save i)

/-! ### One item at a time -/

section Threads

variable (settings : StockSettings) (a : StoreAnswers)

/-- The failure of one item: FAILED, the release and the log before the save. -/
def failItem (i : Nat) : Code Unit := do
  emit (.assign i .failed)
  known (a.item i).release
  known (a.item i).log
  known ((a.item i).save .failed)
  emit (.save i)

/-- `_process_item` after the create. -/
def persistItem (i : Nat) : Code Unit :=
  match (a.item i).persist with
  | .ok () => setStatus i .success ((a.item i).save .success)
  | .error _ => failItem a i

/-- **`_process_item`**.  The fallback assigns SUCCESS and returns without a save. -/
def processItem (i : Nat) : Code Unit := do
  setStatus i .processing ((a.item i).save .processing)
  match (a.item i).build, (a.item i).create with
  | .ok true, .ok .created => persistItem a i
  | .ok true, .ok .viaFallback => emit (.assign i .success)
  | _, _ => failItem a i

/-- The body of the streaming loop; the flag is `_routing_init`. -/
def streamItem (routed : Bool) (i : Nat) : Code Bool := do
  if (← known (a.item i).cancelled) || (a.item i).rateLimited then
    setStatus i .skipped ((a.item i).save .skipped)
    pure routed
  else
    if !routed then
      known a.routing
    processItem a i
    pure true

/-! ### Batches -/

/-- `_fail_pa_legacy_disabled`. -/
def failDisabled (items : List Nat) : Code Unit := do
  each items fun i => do
    setStatus i .failed ((a.item i).save .failed)
    known (a.item i).log
  known a.batchRelease

/-- The build loop of `_process_multi_cred_batch`: the items built. -/
def buildMultiCred : List Nat → Code (List Nat)
  | [] => pure []
  | i :: rest => do
    if ← known (a.item i).cancelled then
      setStatus i .skipped ((a.item i).save .skipped)
      buildMultiCred rest
    else if ← known (a.item i).build then
      let built ← buildMultiCred rest
      pure (i :: built)
    else
      setStatus i .failed ((a.item i).save .failed)
      known (a.item i).log
      buildMultiCred rest

/-- The failure of the merged offer. -/
def failMultiCred (built : List Nat) : Code Unit := do
  each built fun i => setStatus i .failed ((a.item i).save .failed)
  known a.batchRelease
  known a.batchLog

/-- **`_process_multi_cred_batch`**. -/
def multiCredBatch (items : List Nat) : Code Unit := do
  known a.routing
  let built ← buildMultiCred a items
  if built.isEmpty then
    known a.batchRelease
  else
    each built fun i => setStatus i .processing ((a.item i).save .processing)
    match a.batchCreate with
    | .error _ => failMultiCred a built
    | .ok () =>
      catching
        (do
          known a.batchPersist
          each built fun i => setStatus i .success ((a.item i).save .success))
        fun _ => failMultiCred a built

/-- One row of `_process_pa_official_batch`, saves inside the `try`; only a refusal
(`_OfficialPAWriteFailure`) is logged. -/
def officialItem (i : Nat) : Code Unit :=
  match (a.item i).build, (a.item i).create with
  | .ok true, .ok .created =>
    catching
      (do
        known (a.item i).persist
        setStatus i .success ((a.item i).save .success)
        known (a.item i).log)
      fun _ => do
        setStatus i .failed ((a.item i).save .failed)
        known (a.item i).release
  | .ok true, .ok _ => do
    setStatus i .failed ((a.item i).save .failed)
    known (a.item i).release
    known (a.item i).log
  | _, _ => do
    setStatus i .failed ((a.item i).save .failed)
    known (a.item i).release

/-- The build loop of the relay batch: the items built. -/
def buildRelay : List Nat → Code (List Nat)
  | [] => pure []
  | i :: rest =>
    match (a.item i).build with
    | .ok true => do
      let built ← buildRelay rest
      pure (i :: built)
    | _ => do
      setStatus i .failed ((a.item i).save .failed)
      known (a.item i).release
      buildRelay rest

/-- One row of the relay result; the save is outside the `try`. -/
def settleItem (i : Nat) : Code Unit :=
  if (a.item i).accepted then
    match (a.item i).persist with
    | .ok () => setStatus i .success ((a.item i).save .success)
    | .error _ => do
      emit (.assign i .failed)
      known (a.item i).release
      known ((a.item i).save .failed)
      emit (.save i)
  else
    failItem a i

/-- **`_process_pa_relay_batch`**. -/
def relayBatch (items : List Nat) : Code Unit :=
  match a.client with
  | .error _ => failDisabled a items
  | .ok true => do
    known a.routing
    each items (officialItem a)
  | .ok false =>
    if settings.relayDisabled then
      failDisabled a items
    else do
      if ← known a.token then
        known a.routing
        let built ← buildRelay a items
        if !built.isEmpty then
          known a.post
          each built (settleItem a)
      else
        each items fun i => do
          setStatus i .failed ((a.item i).save .failed)
          known (a.item i).release

/-! ### The accumulating thread -/

/-- `_PA_BATCH_SIZE`. -/
def paBatchSize : Nat := 10

/-- One row of `_flush_pa_official_batch`, up to the save: its status. -/
def flushOfficialStatus (i : Nat) : Code ItemStatus :=
  match (a.item i).create with
  | .ok .created =>
    catching
      (do
        known (a.item i).persist
        emit (.assign i .success)
        known (a.item i).log
        pure .success)
      fun _ => do
        emit (.assign i .failed)
        known (a.item i).release
        pure .failed
  | .ok _ => do
    emit (.assign i .failed)
    known (a.item i).release
    known (a.item i).log
    pure .failed
  | .error _ => do
    emit (.assign i .failed)
    known (a.item i).release
    pure .failed

def flushOfficialItem (i : Nat) : Code Unit := do
  let status ← flushOfficialStatus a i
  known ((a.item i).save status)
  emit (.save i)

/-- **`_flush_pa_batch`**; without a token every row is refused. -/
def flushBulk (rows : List Nat) : Code Unit := do
  each rows fun i => setStatus i .processing ((a.item i).save .processing)
  if ← known a.client then
    each rows (flushOfficialItem a)
  else if ← known a.token then
    known a.post
    each rows (settleItem a)
  else
    each rows (failItem a)

/-- The body of the loop of `consume_store_pa`: `ready` says whether the client and the
router are built, `rows` is the accumulator. -/
def bulkItem (ready : Bool) (rows : List Nat) (i : Nat) : Code (Bool × List Nat) := do
  if ← known (a.item i).cancelled then
    setStatus i .skipped ((a.item i).save .skipped)
    pure (ready, rows)
  else
    if !ready then
      let _ ← known a.client
      known a.routing
    if ← known (a.item i).build then
      if paBatchSize ≤ rows.length + 1 then
        flushBulk a (rows ++ [i])
        pure (true, [])
      else
        pure (true, rows ++ [i])
    else
      setStatus i .failed ((a.item i).save .failed)
      known (a.item i).log
      pure (true, rows)

/-! ### The threads -/

/-- What a batch thread does at the sentinel. -/
inductive BatchKind
  | multiCred | relay | disabled
  deriving DecidableEq, Repr

/-- The local variables of a thread, by the path it is on. -/
inductive Local
  /-- `consume_store` before its first entry. -/
  | first
  | streaming (routed : Bool)
  | gathering (kind : BatchKind) (items : List Nat)
  | bulk (ready : Bool) (rows : List Nat)
  deriving DecidableEq, Repr

/-- `_MULTI_CRED_MARKETPLACES`, and `_is_multi_cred_job`. -/
def isMultiCredJob (marketplace : Provider) : Bool :=
  settings.manual && (marketplace == .eldorado || marketplace == .gameboost)

/-- `finally: close_old_connections()` when the body raises. -/
def closing {α : Type} (c : Code α) : Code α :=
  catching c fun e => do
    known a.closed
    throw e

/-- A thread up to its first wait; `bulk` says that it runs `consume_store_pa`. -/
def start (bulk : Bool) : Code Local :=
  closing a do
    known a.opened
    if bulk then
      if settings.relayDisabled then
        pure (.gathering .disabled [])
      else
        pure (.bulk false [])
    else
      pure .first

/-- A thread after `queue.get()` gave an entry. -/
def receiveBody (i : JobItem) : Local → Code Local
  | .first =>
    if isMultiCredJob settings i.marketplace then
      pure (.gathering .multiCred [i.id])
    else if i.marketplace = .playerauctions then
      pure (.gathering .relay [i.id])
    else do
      let routed ← streamItem a false i.id
      pure (.streaming routed)
  | .streaming routed => do
    let routed ← streamItem a routed i.id
    pure (.streaming routed)
  | .gathering kind items => pure (.gathering kind (items ++ [i.id]))
  | .bulk ready rows => do
    let (ready, rows) ← bulkItem a ready rows i.id
    pure (.bulk ready rows)

def receive (l : Local) (i : JobItem) : Code Local :=
  closing a (receiveBody settings a i l)

/-- A thread after `queue.get()` gave the sentinel. -/
def finishBody : Local → Code Unit
  | .first => pure ()
  | .streaming _ => pure ()
  | .gathering .multiCred items => multiCredBatch a items
  | .gathering .relay items => relayBatch settings a items
  | .gathering .disabled items => if items.isEmpty then pure () else failDisabled a items
  | .bulk _ rows => if rows.isEmpty then pure () else flushBulk a rows

def finish (l : Local) : Code Unit := do
  closing a (finishBody settings a l)
  known a.closed

end Threads

end Sda.Stock
