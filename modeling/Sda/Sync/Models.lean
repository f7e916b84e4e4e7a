/-
Sda/Sync/Models.lean

The rows of the sync app (sync/models.py, sync/enums.py) and, of the listing
and inventory apps, the columns the sync services read or write.

A raw payload is stored under its remote id (unique per account and resource),
so the payloads of one account and resource are a partial function of it.  The
payload hash is the payload: two payloads have the same hash when they are
equal.  Times are in seconds.

`reconcileDropshipProducts` is the cascade both deletions of listings share
(`_reconcile_dropship_products`, sync/services/base.py).
-/
import Sda.Lib.Table

namespace Sda.Sync

inductive SyncMode
  | backfill | incremental
  deriving DecidableEq, Repr

inductive SyncPhase
  | full | ingest | process
  deriving DecidableEq, Repr

inductive ParseStatus
  | pending | parsed | failed | skipped
  deriving DecidableEq, Repr

inductive CheckpointStatus
  | active | completed | stale
  deriving DecidableEq, Repr

inductive SyncRunStatus
  | running | completed | failed | cancelled
  deriving DecidableEq, Repr

inductive ListingStatus
  | listed | paused | closed | deleted
  deriving DecidableEq, Repr

inductive DropshipProductStatus
  | listed | sold | deleted
  deriving DecidableEq, Repr

/-- `RawPayload`; `parseAttempts` is the key of `meta`. -/
structure RawPayload (ι : Type) where
  payload : ι
  firstSeenAt : Nat
  lastSeenAt : Nat
  fetchedAt : Nat
  parseStatus : ParseStatus := .pending
  parseError : String := ""
  parsedAt : Option Nat := none
  parseAttempts : Nat := 0
  deriving DecidableEq, Repr

/-- `SyncCheckpoint`; the last two fields are the keys `_incremental_page` and
`_current_status` of `meta`. -/
structure SyncCheckpoint where
  mode : SyncMode
  cursor : String := ""
  lastSeenRemoteId : String := ""
  lastSeenRemoteTimestamp : Option Nat := none
  lastRunAt : Option Nat := none
  status : CheckpointStatus := .active
  incrementalPage : Option Nat := none
  currentStatus : Option String := none
  deriving DecidableEq, Repr

/-- **`SyncCheckpoint.advance`**. -/
def SyncCheckpoint.advance (cp : SyncCheckpoint) (remoteId : String) (timestamp : Option Nat)
    (cursor : String) (now : Nat) : SyncCheckpoint :=
  { cp with
    lastSeenRemoteId := remoteId
    cursor
    lastSeenRemoteTimestamp := timestamp.or cp.lastSeenRemoteTimestamp
    lastRunAt := some now }

/-- `SyncRun`, with the keys of `meta` the services write. -/
structure SyncRun where
  mode : SyncMode
  createdAt : Nat
  status : SyncRunStatus := .running
  finishedAt : Option Nat := none
  processedCount : Nat := 0
  createdCount : Nat := 0
  updatedCount : Nat := 0
  errorCount : Nat := 0
  blockedOnParseFailure : Bool := false
  pageLimitReached : Option Nat := none
  quarantinedRemoteIds : List String := []
  stopReason : String := ""
  reconciledDeleted : Nat := 0
  deriving DecidableEq, Repr

structure Listing where
  integrationAccount : Option Nat
  storeListingId : String
  game : Option Nat := none
  variant : String := ""
  status : ListingStatus := .listed
  dropshipProduct : Option Nat := none
  removedAt : Option Nat := none
  updatedAt : Nat := 0
  deriving DecidableEq, Repr

structure DropshipProduct where
  status : DropshipProductStatus := .listed
  deletedAt : Option Nat := none
  deriving DecidableEq, Repr

/-! ### The cascade of a deletion -/

/-- Does a LISTED listing of the product remain? -/
def stillActive (listings : Table Listing) (product : Nat) : Bool :=
  listings.any fun _ r => r.dropshipProduct == some product && r.status == .listed

/-- **`_reconcile_dropship_products`**. -/
def reconcileDropshipProducts (listings : Table Listing) (products : Table DropshipProduct)
    (now : Nat) (ids : List Nat) : Table DropshipProduct :=
  products.updateWhere
    (fun k p => ids.contains k && !stillActive listings k && p.status == .listed)
    fun p => { p with status := .deleted, deletedAt := some now }

end Sda.Sync
