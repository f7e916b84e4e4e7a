/-
Sda/Renewal/Eldorado.lean

The renewal of one Eldorado offer (sync/services/eldorado/renewal.py) over the
ledger `MarketplaceRenewalCheck`, whose two nullable unique columns are fields of
the type.

`sends` is a history variable: the update calls that have reached the
transport, each with the cycle it was made for.  So is `run`, the number of the
run that wrote a row.  A row with a cycle key is an attempt, a row without one an
observation (`_record`).
-/
import Sda.Renewal.Models

namespace Sda.Eldorado

/-- `MarketplaceRenewalCheck.Outcome`. -/
inductive Outcome
  | pending | unknown | renewed | notDue | gone | notActive | heldSale | unproven | failed
  deriving DecidableEq, Repr

/-- `outcome in UNRESOLVED_OUTCOMES`. -/
def Outcome.unresolved : Outcome → Bool
  | .pending | .unknown | .unproven => true
  | _ => false

structure RenewalDecision where
  outcome : Outcome
  reason : String := ""
  previous : Option Int := none
  verified : Option Int := none
  stopRun : Bool := false
  writesAttempted : Nat := 0
  readsUsed : Nat := 0
  deriving DecidableEq, Repr

def reasonCodes : List String :=
  ["attempt_pending", "attempt_exception", "send_failed_unknown",
    "verify_read_failed", "verify_identity_mismatch", "verify_state_changed",
    "verified_expiry_extended", "saved_but_expiry_unproven",
    "offer_not_found", "read_failed", "identity_mismatch", "remote_not_active",
    "expiry_unreadable", "not_expiring_soon", "local_sale_or_order",
    "dry_run_would_renew", "transaction_active", "listing_changed",
    "unresolved_attempt", "cycle_already_checked", "renewal_disabled",
    "serialization_unavailable", "one_shot_update_unavailable",
    "mutation_not_admitted", "ledger_unavailable", "local_check_failed",
    "local_state_changed_after_send", "save_configuration_missing",
    "credential_read_failed", "payload_invalid", "local_safety_refusal",
    "read_budget_exhausted"]

/-- **`_safe_reason`**. -/
def safeReason (reason : String) : String :=
  if reasonCodes.contains reason then reason else "local_safety_refusal"

/-! ### What the marketplace answers -/

/-- A live offer, as `str(live.get(key) or '')` reads it; `expireDate` is `none`
when it is no text. -/
structure LiveOffer where
  id : String := ""
  offerState : String := ""
  expireDate : Option String := none
  deriving DecidableEq, Repr

/-- The answer to `get_private_offer`. -/
structure OfferRead where
  ok : Bool
  status : Option Int := none
  live : LiveOffer := {}
  deriving DecidableEq, Repr

/-- The functions of the standard library the renewal calls: `datetime.fromisoformat`
(a naive date is one of UTC), `datetime.isoformat` in UTC, and the digest. -/
structure Library where
  fromIsoFormat : String → Option Int
  isoFormat : Int → String
  sha256 : String → String

/-- **`parse_expire_date`**. -/
def parseExpireDate (lib : Library) (value : Option String) : Option Int :=
  value.bind fun text =>
    if stripText text = "" then none else lib.fromIsoFormat (replaceZulu (stripText text))

def activeState : String := "active"

def maxVerifiedExtensionDays : Int := 60

/-- **`decide_from_live_offer`**. -/
def decideFromLiveOffer (lib : Library) (offerId : String) (read : OfferRead) (cutoff : Int) :
    Option RenewalDecision :=
  if !read.ok then
    if read.status = some 404 then some { outcome := .gone, reason := "offer_not_found" }
    else some { outcome := .failed, reason := "read_failed" }
  else if lowerText read.live.id ≠ lowerText offerId then
    some { outcome := .failed, reason := "identity_mismatch" }
  else
    let expires := parseExpireDate lib read.live.expireDate
    if lowerText (stripText read.live.offerState) ≠ activeState then
      some { outcome := .notActive, reason := "remote_not_active", previous := expires }
    else
      match expires with
      | none => some { outcome := .failed, reason := "expiry_unreadable" }
      | some date =>
        if date > cutoff then
          some { outcome := .notDue, reason := "not_expiring_soon", previous := date,
                 verified := date }
        else none

/-- **`decide_after_save`**. -/
def decideAfterSave (lib : Library) (previous : Option Int) (after : OfferRead)
    (offerId : String) (now : Int) : RenewalDecision :=
  if !after.ok then
    { outcome := .unknown, reason := "verify_read_failed", previous, stopRun := true }
  else if lowerText after.live.id ≠ lowerText offerId then
    { outcome := .unknown, reason := "verify_identity_mismatch", previous, stopRun := true }
  else
    let newExpiry := parseExpireDate lib after.live.expireDate
    if lowerText (stripText after.live.offerState) ≠ activeState then
      { outcome := .unknown, reason := "verify_state_changed", previous, verified := newExpiry,
        stopRun := true }
    else
      match newExpiry, previous with
      | some new, some old =>
        if new > old ∧ now < new ∧ new ≤ now + days maxVerifiedExtensionDays then
          { outcome := .renewed, reason := "verified_expiry_extended", previous,
            verified := newExpiry }
        else
          { outcome := .unproven, reason := "saved_but_expiry_unproven", previous,
            verified := newExpiry, stopRun := true }
      | _, _ =>
        { outcome := .unproven, reason := "saved_but_expiry_unproven", previous,
          verified := newExpiry, stopRun := true }

/-! ### The tables a renewal looks at -/

/-- `Listing`; the key `0` is that of an unsaved one. -/
structure Listing where
  pk : Nat
  integrationAccount : Option Nat
  storeListingId : Option String
  status : ListingStatus := .listed
  removedAt : Option Int := none
  deriving DecidableEq, Repr

structure Store where
  pk : Nat
  provider : Provider
  isActive : Bool := true
  role : Role := .sell
  deriving DecidableEq, Repr

structure IntegrationCredential where
  account : Nat
  isActive : Bool := true
  deriving DecidableEq, Repr

/-- `ListingOwnedProduct`, with the status of its product. -/
structure ProductLink where
  listing : Nat
  ownedProduct : Nat
  productStatus : OwnedProductStatus
  deriving DecidableEq, Repr

structure Order where
  listing : Option Nat := none
  ownedProduct : Option Nat := none
  integrationAccount : Option Nat := none
  storeListingId : String := ""
  deriving DecidableEq, Repr

/-- Everything local but the ledger, at one moment.  `inTransaction` is
`in_atomic_block or not get_autocommit()`. -/
structure World where
  inTransaction : Bool := false
  renewalFlag : Except Raised (Option FeatureFlag) := .ok none
  listings : List Listing := []
  stores : List Store := []
  credentials : List IntegrationCredential := []
  products : List ProductLink := []
  poolSaleEvents : List Nat := []
  soldActiveOffers : List Nat := []
  orders : List Order := []

/-- **`_offer_id`**. -/
def offerId (listing : Listing) : String :=
  lowerText (stripText (listing.storeListingId.getD ""))

/-- **`_execute_enabled`**. -/
def executeEnabled (w : World) : Bool :=
  (unifiedRenewalProviders w.renewalFlag).contains Provider.eldorado.text

/-- **`_fresh_listing`**. -/
def freshListing (w : World) (listing : Listing) : Option Listing :=
  match w.listings.find? fun row =>
      row.pk == listing.pk && row.integrationAccount == listing.integrationAccount &&
        row.storeListingId == listing.storeListingId &&
        (row.status == .listed || row.status == .paused) with
  | none => none
  | some fresh =>
    if fresh.removedAt.isSome then none
    else
      match w.stores.find? fun store => some store.pk == fresh.integrationAccount with
      | none => none
      | some store =>
        if store.provider != .eldorado || !store.isActive || store.role == .buy then none
        else if w.credentials.any fun c => c.account == store.pk && c.isActive then some fresh
        else none

/-- **`_has_sale_or_open_order`**. -/
def hasSaleOrOpenOrder (w : World) (listing : Listing) : Bool :=
  let sameOffer (id : String) : Bool := lowerText id == lowerText (offerId listing)
  let aliases := (w.listings.filter fun row =>
    row.integrationAccount == listing.integrationAccount &&
      row.storeListingId.any sameOffer).map Listing.pk
  let products := w.products.filter fun link => aliases.contains link.listing
  (products.any fun link => link.productStatus != .draft && link.productStatus != .listed) ||
    (w.poolSaleEvents.any aliases.contains) ||
    (w.soldActiveOffers.any aliases.contains) ||
    w.orders.any fun order =>
      order.listing.any aliases.contains ||
        (order.ownedProduct.any fun p => products.any fun link => link.ownedProduct == p) ||
        (order.integrationAccount == listing.integrationAccount && sameOffer order.storeListingId)

/-! ### The ledger -/

/-- `MarketplaceRenewalCheck`. -/
structure Check where
  listing : Nat
  integrationAccount : Option Nat
  offerId : String
  cycleKey : Option String := none
  unresolvedKey : Option String := none
  outcome : Outcome
  previousExpiresAt : Option Int
  verifiedExpiresAt : Option Int := none
  reasonCode : String
  run : Nat
  deriving DecidableEq, Repr

/-- An update call: whose offer, for which exact expiry, under which attempt. -/
structure Send where
  integrationAccount : Option Nat
  offerId : String
  previous : Int
  attempt : Nat
  deriving DecidableEq, Repr

structure Ledger where
  checks : Table Check := .empty
  sends : List Send := []
  cycleUnique : checks.Unique Check.cycleKey
  unresolvedUnique : checks.Unique Check.unresolvedKey

namespace Ledger

/-- The ledger before the first renewal. -/
def empty : Ledger :=
  { cycleUnique := Table.unique_empty, unresolvedUnique := Table.unique_empty }

/-- `C.objects.create`: refused when a unique column holds the value already. -/
def create (s : Ledger) (c : Check) : Option Ledger :=
  if h : s.checks.holds Check.cycleKey c.cycleKey = false ∧
      s.checks.holds Check.unresolvedKey c.unresolvedKey = false then
    some { s with
      checks := s.checks.create c
      cycleUnique := s.cycleUnique.create h.1
      unresolvedUnique := s.unresolvedUnique.create h.2 }
  else none

theorem create_some {s s' : Ledger} {c : Check} (h : s.create c = some s') :
    s'.checks = s.checks.create c ∧ s'.sends = s.sends := by
  rw [create] at h
  split at h
  · cases h
    exact ⟨rfl, rfl⟩
  · cases h

end Ledger

/-- What `_finalize` writes to the row of an attempt. -/
def Check.finalized (c : Check) (d : RenewalDecision) : Check :=
  { c with
    outcome := d.outcome
    reasonCode := safeReason d.reason
    verifiedExpiresAt := d.verified
    unresolvedKey := if d.outcome.unresolved then c.unresolvedKey else none }

theorem Check.unresolvedKey_finalized {c : Check} {d : RenewalDecision} {key : String}
    (h : (c.finalized d).unresolvedKey = some key) : c.unresolvedKey = some key := by
  rw [Check.finalized] at h
  split at h
  · exact h
  · cases h

namespace Ledger

/-- The row of an attempt is saved with the decision. -/
def save (s : Ledger) (attempt : Nat) (d : RenewalDecision) : Ledger :=
  { s with
    checks := s.checks.mapRows fun k c => if k = attempt then c.finalized d else c
    cycleUnique := s.cycleUnique.mapRows fun k c x h => by
      split at h
      · exact h
      · exact h
    unresolvedUnique := s.unresolvedUnique.mapRows fun k c x h => by
      split at h
      · exact Check.unresolvedKey_finalized h
      · exact h }

/-- An update call reaches the transport. -/
def send (s : Ledger) (x : Send) : Ledger :=
  { s with sends := s.sends ++ [x] }

end Ledger

/-- `f'{account_id}'`. -/
def accountText : Option Nat → String
  | none => "None"
  | some account => natText account

/-- **`renewal_cycle_key`**. -/
def renewalCycleKey (lib : Library) (account : Option Nat) (offerId : String) (previous : Int) :
    String :=
  lib.sha256 (Provider.eldorado.text ++ ":" ++ accountText account ++ ":" ++
    lowerText (stripText offerId) ++ ":" ++ lib.isoFormat previous)

/-- **`unresolved_offer_key`**. -/
def unresolvedOfferKey (lib : Library) (account : Option Nat) (offerId : String) : String :=
  lib.sha256 (Provider.eldorado.text ++ ":" ++ accountText account ++ ":" ++
    lowerText (stripText offerId))

/-! ### One run -/

/-- The places at which a run looks at the other tables. -/
inductive Site
  | start | afterRead | claim | preSend | lastPreSend | finalize
  deriving DecidableEq, Repr

/-- The methods the client has. -/
structure Client where
  offerMutation : Bool := true
  updateOfferOnce : Bool := true
  deriving DecidableEq, Repr

/-- The arguments of one run, and everything it is answered on its way. -/
structure Run where
  listing : Listing
  now : Int
  cutoff : Int
  execute : Bool := true
  injectedSave : Bool := false
  readBudget : Option Int := none
  entry : World
  world : Site → Except Raised World
  client : Except Raised Client := .ok {}
  admitted : Except Raised Bool := .ok true
  leaseReleased : Except Raised Unit := .ok ()
  first : Except Raised OfferRead
  saveConfiguration : Except Raised Unit := .ok ()
  credentialsOk : Except Raised Bool := .ok true
  payload : Except Raised Unit := .ok ()
  updatedOk : Except Raised Bool := .ok true
  after : Except Raised OfferRead
  claimCommit : Commit := .done
  finalizeCommit : Commit := .done
  recordCommit : Commit := .done
  expiryStored : Except Raised Unit := .ok ()

/-- **`_unresolved`**. -/
def unresolved (s : Ledger) (listing : Listing) : Bool :=
  s.checks.any fun _ c =>
    c.integrationAccount == listing.integrationAccount && c.offerId == offerId listing &&
      c.outcome.unresolved

/-- The attempt a run holds. -/
structure Attempt where
  pk : Nat
  cycleKey : String
  deriving DecidableEq, Repr

/-- The pair `_claim` returns. -/
inductive Claimed
  | attempt (a : Attempt)
  | refused (d : RenewalDecision)
  deriving DecidableEq, Repr

/-- The insertion that ends `_claim`. -/
def createAttempt (lib : Library) (i : Nat) (commit : Commit) (fresh : Listing) (previous : Int)
    (s : Ledger) : Except Raised Claimed × Ledger :=
  let cycle := renewalCycleKey lib fresh.integrationAccount (offerId fresh) previous
  match s.create
    { listing := fresh.pk, integrationAccount := fresh.integrationAccount
      offerId := offerId fresh, cycleKey := cycle
      unresolvedKey := unresolvedOfferKey lib fresh.integrationAccount (offerId fresh)
      outcome := .pending, previousExpiresAt := previous
      reasonCode := "attempt_pending", run := i } with
  | none => (.error .integrityError, s)
  | some s' => commit.settle (.attempt ⟨s.checks.nextKey, cycle⟩) s s'

/-- **`_claim`**. -/
def claim (lib : Library) (i : Nat) (r : Run) (listing : Listing) (previous : Int) :
    Proc Ledger (Except Raised Claimed) :=
  match r.world .claim with
  | .error e => pure (.error e)
  | .ok w =>
    if w.inTransaction then
      pure (.ok (.refused
        { outcome := .failed, reason := "transaction_active", previous, stopRun := true }))
    else
      match freshListing w listing with
      | none =>
        pure (.ok (.refused { outcome := .failed, reason := "listing_changed", previous }))
      | some fresh =>
        if hasSaleOrOpenOrder w fresh then
          pure (.ok (.refused { outcome := .heldSale, reason := "local_sale_or_order", previous }))
        else do
          let held ← Proc.read fun s => unresolved s fresh
          if held then
            pure (.ok (.refused
              { outcome := .unknown, reason := "unresolved_attempt", previous, stopRun := true }))
          else
            let cycle := renewalCycleKey lib fresh.integrationAccount (offerId fresh) previous
            let checked ← Proc.read fun s : Ledger => s.checks.holds Check.cycleKey (some cycle)
            if checked then
              pure (.ok (.refused
                { outcome := .notDue, reason := "cycle_already_checked", previous }))
            else Proc.atomic (createAttempt lib i r.claimCommit fresh previous)

/-- What ends a stage before the send: `_LocalPreSendRefusal`, or another exception. -/
inductive PreSend
  | refused (reason : String) (outcome : Outcome)
  | raised (e : Raised)
  deriving DecidableEq, Repr

/-- **`_pre_send_check`**. -/
def preSendCheck (w : Except Raised World) (listing : Listing) : Except PreSend Unit :=
  match w with
  | .error e => .error (.raised e)
  | .ok w =>
    if w.inTransaction then .error (.refused "transaction_active" .failed)
    else if !executeEnabled w then .error (.refused "renewal_disabled" .failed)
    else
      match freshListing w listing with
      | none => .error (.refused "listing_changed" .failed)
      | some fresh =>
        if hasSaleOrOpenOrder w fresh then .error (.refused "local_sale_or_order" .heldSale)
        else .ok ()

/-- The update call.  What it raises says nothing about whether it was carried out. -/
def sendOnce (r : Run) (x : Send) : Proc Ledger (Except PreSend Bool) :=
  Proc.atomic fun s =>
    (match r.updatedOk with
      | .error _ => .error (.raised .other)
      | .ok ok => .ok ok, s.send x)

/-- The variables of a run that its exception handlers still see. -/
structure Locals where
  attempt : Option Attempt := none
  previous : Option Int := none
  writesAttempted : Nat := 0
  readsUsed : Nat := 0
  deriving DecidableEq, Repr

/-- `count_read()`. -/
def Locals.countRead (l : Locals) : Locals :=
  { l with readsUsed := l.readsUsed + 1 }

/-- **`_default_save`**. -/
def defaultSave (r : Run) (client : Client) (listing : Listing) (x : Send) (l : Locals) :
    Proc Ledger (Locals × Except PreSend Bool) :=
  match r.saveConfiguration with
  | .error _ => pure (l, .error (.refused "save_configuration_missing" .failed))
  | .ok () =>
    if !client.updateOfferOnce then
      pure (l, .error (.refused "one_shot_update_unavailable" .failed))
    else
      match r.credentialsOk with
      | .error _ => pure (l.countRead, .error (.refused "credential_read_failed" .failed))
      | .ok false => pure (l.countRead, .error (.refused "credential_read_failed" .failed))
      | .ok true =>
        match r.payload with
        | .error _ => pure (l.countRead, .error (.refused "payload_invalid" .failed))
        | .ok () =>
          match preSendCheck (r.world .lastPreSend) listing with
          | .error (.refused reason outcome) =>
            pure (l.countRead, .error (.refused reason outcome))
          | .error (.raised _) =>
            pure (l.countRead, .error (.refused "local_check_failed" .failed))
          | .ok () => do
            let saved ← sendOnce r x
            pure (l.countRead, saved)

/-- How the guarded part of a run ends: it returns, it falls through with a decision, or
an exception leaves it. -/
inductive Ending
  | returned (d : RenewalDecision)
  | decided (l : Locals) (d : RenewalDecision)
  | raised (l : Locals) (e : Raised)
  deriving DecidableEq, Repr

/-- The variables at the end. -/
def Ending.locals : Ending → Locals
  | .returned _ => {}
  | .decided l _ => l
  | .raised l _ => l

/-- What becomes of an attempt whose save was answered. -/
def afterSend (lib : Library) (r : Run) (l : Locals) (previous : Int) :
    Except PreSend Bool → Ending
  | .error (.refused reason outcome) =>
    .decided { l with writesAttempted := 0 } { outcome, reason, previous }
  | .error (.raised e) => .raised l e
  | .ok false =>
    .decided l
      { outcome := .unknown, reason := "send_failed_unknown", previous, stopRun := true }
  | .ok true =>
    match r.after with
    | .error e => .raised l.countRead e
    | .ok after =>
      .decided l.countRead (decideAfterSave lib previous after (offerId r.listing) r.now)

/-- From the claim of an attempt to the read that verifies it. -/
def sendAndVerify (lib : Library) (r : Run) (client : Client) (fresh : Listing) (previous : Int)
    (a : Attempt) (l : Locals) : Proc Ledger Ending :=
  match preSendCheck (r.world .preSend) fresh with
  | .error e => pure (afterSend lib r l previous (.error e))
  | .ok () =>
    let l := { l with writesAttempted := 1 }
    let x : Send := ⟨fresh.integrationAccount, offerId fresh, previous, a.pk⟩
    if r.injectedSave then do
      let saved ← sendOnce r x
      pure (afterSend lib r l.countRead previous saved)
    else do
      let (l, saved) ← defaultSave r client fresh x l
      pure (afterSend lib r l previous saved)

/-- The part of a run under the lease of its offer. -/
def underLease (lib : Library) (i : Nat) (r : Run) (client : Client) (admitted : Bool) :
    Proc Ledger Ending :=
  let l : Locals := { readsUsed := 1 }
  match admitted, r.first with
  | false, _ =>
    pure (.returned { outcome := .failed, reason := "mutation_not_admitted", stopRun := true })
  | true, .error e => pure (.raised l e)
  | true, .ok first =>
    match decideFromLiveOffer lib (offerId r.listing) first r.cutoff,
        parseExpireDate lib first.live.expireDate with
    | some d, _ => pure (.decided l d)
    -- not reached: an offer without a readable expiry has a decision
    | none, none => pure (.raised l .other)
    | none, some previous =>
      let l := { l with previous := some previous }
      match r.world .afterRead with
      | .error e => pure (.raised l e)
      | .ok w =>
        match freshListing w r.listing with
        | none =>
          pure (.decided l { outcome := .failed, reason := "listing_changed", previous })
        | some fresh =>
          if hasSaleOrOpenOrder w fresh then
            pure (.decided l
              { outcome := .heldSale, reason := "local_sale_or_order", previous })
          else if !r.execute then
            pure (.decided l
              { outcome := .notDue, reason := "dry_run_would_renew", previous })
          else if r.readBudget.any fun budget : Int => budget - l.readsUsed < 2 then
            pure (.decided l
              { outcome := .notDue, reason := "read_budget_exhausted", previous,
                stopRun := true })
          else do
            match ← claim lib i r fresh previous with
            | .error e => pure (.raised l e)
            | .ok (.refused d) => pure (.decided l d)
            | .ok (.attempt a) =>
              sendAndVerify lib r client fresh previous a { l with attempt := some a }

/-- The guarded part of a run, with the exit of the lease. -/
def guarded (lib : Library) (i : Nat) (r : Run) : Proc Ledger Ending :=
  match r.world .start with
  | .error e => pure (.raised {} e)
  | .ok w =>
    match freshListing w r.listing with
    | none => pure (.returned { outcome := .failed, reason := "listing_changed" })
    | some fresh => do
      let held ← Proc.read fun s => unresolved s fresh
      if held then
        pure (.returned { outcome := .unknown, reason := "unresolved_attempt", stopRun := true })
      else
        match r.client with
        | .error e => pure (.raised {} e)
        | .ok client =>
          if !client.offerMutation then
            pure (.returned
              { outcome := .failed, reason := "serialization_unavailable", stopRun := true })
          else if r.execute && !r.injectedSave && !client.updateOfferOnce then
            pure (.returned
              { outcome := .failed, reason := "one_shot_update_unavailable", stopRun := true })
          else
            match r.admitted with
            | .error e => pure (.raised {} e)
            | .ok admitted => do
              let ending ← underLease lib i r client admitted
              match r.leaseReleased with
              | .error e => pure (.raised ending.locals e)
              | .ok () => pure ending

/-- `outcome='unknown'` with an attempt, `'failed'` without. -/
def Locals.doubt (l : Locals) : Outcome :=
  if l.attempt.isSome then .unknown else .failed

/-- The two exception handlers. -/
def onException (l : Locals) : Raised → RenewalDecision
  | .integrityError =>
    { outcome := l.doubt, reason := "ledger_unavailable", previous := l.previous,
      stopRun := true }
  | .other =>
    { outcome := l.doubt
      reason := if l.attempt.isSome then "attempt_exception" else "local_check_failed"
      previous := l.previous, stopRun := true }

/-- The decision `_finalize` settles on, given what it finds locally. -/
def finalDecision (w : World) (listing : Listing) (d : RenewalDecision) : RenewalDecision :=
  let fresh := freshListing w listing
  if d.writesAttempted ≠ 0 ∧ (fresh.isNone ∨ fresh.any (hasSaleOrOpenOrder w)) then
    { d with outcome := .unknown, reason := "local_state_changed_after_send", stopRun := true }
  else d

/-- **`_finalize`**.  What it writes to the listing changes nothing in the ledger; that it may
fail there, and take the row back with it, is `finalizeCommit`. -/
def finalize (r : Run) (a : Attempt) (d : RenewalDecision) :
    Proc Ledger (Except Raised RenewalDecision) :=
  match r.world .finalize with
  | .error e => pure (.error e)
  | .ok w =>
    Proc.atomic fun s =>
      match s.checks.get? a.pk with
      | none => (.error .other, s)
      | some claimed =>
        if claimed.listing = r.listing.pk ∧
            claimed.integrationAccount = r.listing.integrationAccount ∧
            claimed.offerId = offerId r.listing ∧ claimed.cycleKey = some a.cycleKey ∧
            claimed.outcome = .pending then
          r.finalizeCommit.settle (finalDecision w r.listing d) s
            (s.save a.pk (finalDecision w r.listing d))
        else (.error .other, s)

/-- **`_record`**. -/
def record (i : Nat) (r : Run) (d : RenewalDecision) : Proc Ledger (Except Raised Unit) :=
  Proc.atomic fun s =>
    match s.create
      { listing := r.listing.pk, integrationAccount := r.listing.integrationAccount
        offerId := offerId r.listing, outcome := d.outcome, previousExpiresAt := d.previous
        verifiedExpiresAt := d.verified, reasonCode := safeReason d.reason, run := i } with
    | none => (.error .integrityError, s)
    | some s' => r.recordCommit.settle () s s'

/-- The last part of a run: the attempt is finalized, or the observation recorded. -/
def conclude (i : Nat) (r : Run) (l : Locals) (d : RenewalDecision) :
    Proc Ledger RenewalDecision :=
  let d := { d with writesAttempted := l.writesAttempted, readsUsed := l.readsUsed }
  let unavailable : RenewalDecision :=
    { outcome := l.doubt, reason := "ledger_unavailable", previous := l.previous,
      stopRun := true, writesAttempted := l.writesAttempted, readsUsed := l.readsUsed }
  if !r.execute then pure d
  else
    match l.attempt with
    | some a => do
      match ← finalize r a d with
      | .ok d => pure d
      | .error _ => pure unavailable
    | none => do
      match ← record i r d with
      | .error _ => pure unavailable
      | .ok () =>
        match r.expiryStored with
        | .error _ =>
          if d.outcome = .notDue ∧ d.verified.isSome then pure unavailable else pure d
        | .ok () => pure d

/-- **`renew_eldorado_listing`**, as the run number `i`. -/
def renewEldoradoListing (lib : Library) (i : Nat) (r : Run) : Proc Ledger RenewalDecision :=
  if r.execute && r.entry.inTransaction then
    pure { outcome := .failed, reason := "transaction_active", stopRun := true }
  else if r.execute && !executeEnabled r.entry then
    pure { outcome := .failed, reason := "renewal_disabled", stopRun := true }
  else if r.readBudget.any fun budget => budget ≤ 0 then
    pure { outcome := .notDue, reason := "read_budget_exhausted", stopRun := true }
  else if r.listing.pk = 0 ∨ r.listing.integrationAccount.getD 0 = 0 ∨ offerId r.listing = "" ∨
      (offerId r.listing).length > 64 then
    pure { outcome := .failed, reason := "listing_changed" }
  else do
    match ← guarded lib i r with
    | .returned d => pure d
    | .decided l d => conclude i r l d
    | .raised l e => conclude i r l (onException l e)

end Sda.Eldorado
