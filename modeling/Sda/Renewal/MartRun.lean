/-
Sda/Renewal/MartRun.lean

One run of `renew_mart_listing` (sync/services/pa_mart_renewal.py) as a process:
the durable claim, the second transaction up to its call, the same transaction
from the answer on, and the note left when it was rolled back.
-/
import Sda.Renewal.Mart

namespace Sda.Mart

inductive Verdict
  | renewed | rejected | unknown
  deriving DecidableEq, Repr

/-- What a run returns. -/
structure Answer where
  verdict : Verdict
  message : String
  deriving DecidableEq, Repr

/-- The arguments of one run, and everything it is answered on its way; `leadHours` is `none`
when it is no number. -/
structure Run where
  listingId : Nat
  leadHours : Option Rat := some 96
  entry : World
  claimWorld : Except Raised World
  preWorld : Except Raised World
  answer : Except Raised RenewResult
  answeredAt : Int
  postWorld : Except Raised World
  claimCommit : Commit := .done
  preCommit : Commit := .done
  postCommit : Commit := .done
  giveUpCommit : Commit := .done

variable (lib : Library) (r : Run) (lead : Int)

/-! ### The claim -/

inductive Claimed
  | answered (a : Answer)
  | attempt (a : Obj Attempt) (fingerprint : List Nat)
  deriving DecidableEq, Repr

/-- The checks before an attempt is created. -/
def claimContext (s : Books) (w : World) : Except Fault Context := do
  let ctx ← lockContext s w r.listingId
  freshChecks lib s w ctx lead
  refuseIf (!enabled w) "renewal_feature_disabled"
  return ctx

/-- The insertion that ends the claim. -/
def createAttempt (i : Nat) (listing : Listing) (previous : Int) (ctx : Context) (s : Books) :
    Claimed × Books :=
  let failure : Answer := ⟨.unknown, message "claim_database_or_validation_failure"⟩
  let a : Attempt :=
    { listing := r.listingId, integrationAccount := listing.integrationAccount
      requestId := martRenewalRequestId lib listing.storeListingId previous
      oldOfferId := listing.storeListingId, previousExpiresAt := previous
      reasonCode := "claimed_before_transport", run := i }
  match s.create a with
  | none => (.answered failure, s)
  | some s' =>
    match r.claimCommit.settle () s s' with
    | (.ok (), s') => (.attempt ⟨s.attempts.nextKey, a⟩ ctx.fingerprint, s')
    | (.error _, s') => (.answered failure, s')

/-- The first transaction, under the lock of the listing. -/
def claim (i : Nat) (s : Books) : Claimed × Books :=
  let failure : Answer := ⟨.unknown, message "claim_database_or_validation_failure"⟩
  match r.claimWorld, s.listings.get? r.listingId with
  | .ok w, some listing =>
    match s.attempts.select fun _ a => a.listing == r.listingId && a.status.unresolved with
    | (_, hold) :: _ =>
      (.answered ⟨.unknown, message "existing_unresolved_attempt" hold.requestId⟩, s)
    | [] =>
      match listing.marketplaceExpiresAt with
      | none => (.answered ⟨.rejected, message "invalid_recorded_cycle"⟩, s)
      | some previous =>
        if offerId (some listing.storeListingId) = "" then
          (.answered ⟨.rejected, message "invalid_recorded_cycle"⟩, s)
        else
          match s.attempts.select fun _ a =>
              a.cycle == (r.listingId, listing.storeListingId, previous) with
          | (_, existing) :: _ =>
            (.answered ⟨if existing.status = .succeeded then .renewed else .rejected,
              message "cycle_already_recorded" existing.requestId⟩, s)
          | [] =>
            match claimContext lib r lead s w with
            | .error (.unsafeState code) => (.answered ⟨.rejected, message code⟩, s)
            | .error .raised => (.answered failure, s)
            | .ok ctx => createAttempt lib r i listing previous ctx s
  | _, _ => (.answered failure, s)

/-! ### The call and its answer -/

/-- How the second transaction stands before the call: answered, rolled back, or the call is
made. -/
inductive Called
  | answered (a : Answer)
  | failed
  | called (attempt : Obj Attempt)
  deriving DecidableEq, Repr

/-- The checks that are repeated before the call. -/
def recheck (fingerprint : List Nat) (a : Obj Attempt) (s : Books) (w : World) (ctx : Context) :
    Except Fault Unit := do
  refuseIf (!enabled w) "renewal_feature_disabled"
  refuseIf (ctx.fingerprint != fingerprint) "stock_linkage_changed"
  freshChecks lib s w ctx lead (some a)

/-- The call the attempt `a` is made for. -/
def callOf (a : Obj Attempt) : Call :=
  ⟨a.row.listing, a.row.oldOfferId, a.row.previousExpiresAt, a.pk⟩

/-- The second transaction, up to the call. -/
def preCall (k : Nat) (fingerprint : List Nat) (s : Books) : Called × Books :=
  match r.preWorld with
  | .error _ => (.failed, s)
  | .ok w =>
    match lockContext s w r.listingId, s.attempts.get? k with
    | .ok ctx, some a =>
      if a.status ≠ .pending then
        (.answered ⟨.unknown, message "attempt_no_longer_pending" a.requestId⟩, s)
      else
        match recheck lib lead fingerprint ⟨k, a⟩ s w ctx with
        | .error (.unsafeState code) =>
          match r.preCommit.settle () s (s.finish k .rejected code) with
          | (.ok (), s') => (.answered ⟨.rejected, message code a.requestId⟩, s')
          | (.error _, s') => (.failed, s')
        | .error .raised => (.failed, s)
        | .ok () => (.called ⟨k, a⟩, s.call (callOf ⟨k, a⟩))
    | _, _ => (.failed, s)

/-- How the second transaction ends: answered, or rolled back with what the answer said. -/
inductive Settled
  | answered (a : Answer)
  | failed (newId : String) (expiry : Option Int)
  deriving DecidableEq, Repr

/-- Every ownership and sale check once more, after the call. -/
def reverify (fingerprint : List Nat) (a : Obj Attempt) (newId : String) (s : Books) (w : World) :
    Except Fault Context := do
  let fresh ← lockContext s w r.listingId
  refuseIf (fresh.fingerprint != fingerprint) "stock_linkage_changed"
  freshChecks lib s w fresh lead (some a)
  refuseIf (!enabled w) "renewal_feature_disabled"
  refuseIf (newId != "" && collision s w fresh newId) "replacement_identity_collision"
  return fresh

/-- The second transaction ends in `s'`. -/
def commitAnswer (answer : Answer) (newId : String) (expiry : Option Int) (s s' : Books) :
    Settled × Books :=
  match r.postCommit.settle answer s s' with
  | (.ok answer, s') => (.answered answer, s')
  | (.error _, s') => (.failed newId expiry, s')

/-- The second transaction, from the answer on. -/
def settle (fingerprint : List Nat) (a : Obj Attempt) (s : Books) : Settled × Books :=
  match r.answer with
  | .error _ =>
    commitAnswer r ⟨.unknown, message "transport_outcome_unknown" a.row.requestId⟩ "" none s
      (s.finish a.pk .unknown "transport_outcome_unknown")
  | .ok result =>
    match verifiedResult lib result a.row.previousExpiresAt r.answeredAt, r.postWorld with
    | (newId, expiry, _), .error _ => (.failed newId expiry, s)
    | (newId, expiry, reason), .ok w =>
      match reverify lib r lead fingerprint a newId s w with
      | .error .raised => (.failed newId expiry, s)
      | .error (.unsafeState code) =>
        commitAnswer r ⟨.unknown, message code a.row.requestId⟩ newId expiry s
          (s.finish a.pk .unknown code newId expiry)
      | .ok fresh =>
        if localRejection result ≠ "" then
          commitAnswer r ⟨.rejected, message (localRejection result) a.row.requestId⟩
            newId expiry s (s.finish a.pk .rejected (localRejection result))
        else if reason ≠ "" then
          commitAnswer r ⟨.unknown, message reason a.row.requestId⟩ newId expiry s
            (s.finish a.pk .unknown reason newId)
        else
          match expiry with
          -- not reached: without a reason there is a verified expiry
          | none => (.failed newId none, s)
          | some date =>
            commitAnswer r ⟨.renewed, message "verified_renewal" a.row.requestId⟩ newId date s
              ((s.renew fresh newId date w.now).finish a.pk .succeeded "verified_renewal" newId
                (some date))

/-- What is noted of an attempt whose transaction was rolled back. -/
def giveUp (a : Obj Attempt) (sent : Bool) (newId : String) (expiry : Option Int) (s : Books) :
    Answer × Books :=
  (⟨.unknown, message "durable_attempt_requires_reconciliation" a.row.requestId⟩,
    match s.attempts.get? a.pk with
    | none => s
    | some locked =>
      if locked.status = .pending then
        (r.giveUpCommit.settle () s (s.finish a.pk .unknown
          (if sent then "post_send_database_or_guard_failure"
            else "pre_send_database_or_guard_failure") newId expiry)).2
      else s)

/-- **`renew_mart_listing`**, as the run number `i`. -/
def renewMartListing (i : Nat) : Proc Books Answer :=
  if r.entry.inTransaction then
    pure ⟨.rejected, message "enclosing_transaction_refused"⟩
  else if !enabled r.entry then
    pure ⟨.rejected, message "renewal_feature_disabled"⟩
  else
    match r.leadHours with
    | none => pure ⟨.rejected, message "invalid_lead_hours"⟩
    | some hours =>
      if hours ≤ 0 ∨ 96 < hours then
        pure ⟨.rejected, message "invalid_lead_hours"⟩
      else do
        let lead := lib.timedeltaHours hours
        match ← Proc.atomic (claim lib r lead i) with
        | .answered a => pure a
        | .attempt a fingerprint =>
          match ← Proc.atomic (preCall lib r lead a.pk fingerprint) with
          | .answered answer => pure answer
          | .failed => Proc.atomic (giveUp r a false "" none)
          | .called a =>
            match ← Proc.atomic (settle lib r lead fingerprint a) with
            | .answered answer => pure answer
            | .failed newId expiry => Proc.atomic (giveUp r a true newId expiry)

end Sda.Mart
