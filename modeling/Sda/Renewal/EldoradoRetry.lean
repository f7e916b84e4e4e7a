/-
Sda/Renewal/EldoradoRetry.lean

Which refused renewals of an Eldorado offer can be tried again.

A run that is refused leaves a row in the ledger: an observation, or the attempt
it had claimed.  `Check.refuses` is what the ledger later holds against a
renewal of the same offer and expiry.  The rows of a run are written by that run
alone (`OwnsOnly`), so what it knows of them is not disturbed by the others.

* `renewEldoradoListing_leaves` — the rows a refused run leaves, at any later time
  and under any schedule;
* `local_refusal_retryable_iff` — a later run is not refused because of a local
  refusal exactly if that refusal came before the attempt was claimed;
* `local_refusal_retryable_fails` — the delivery details could not be read, and the
  attempt keeps its cycle key.
-/
import Sda.Renewal.EldoradoOnce

namespace Sda.Eldorado

variable {lib : Library} {i k : Nat} {s s' : Ledger} {r : Run} {l : Locals}
variable {c : Check} {d : RenewalDecision}

/-! ### What stands against a later run -/

/-- `timedelta(hours=n)`. -/
def hours (n : Int) : Int := n * 3600000000

def goneRecheckDays : Int := 14

def notActiveRecheckDays : Int := 3

def failedRecheckHours : Int := 6

/-- How long a row keeps its listing from being picked again. -/
def recheckInterval : Outcome → Int
  | .gone => days goneRecheckDays
  | .notActive | .heldSale => days notActiveRecheckDays
  | .failed => hours failedRecheckHours
  | _ => 0

/-- **`recently_checked_ids`**, on a row created at `createdAt`. -/
def recentlyChecked (now createdAt : Int) (outcome : Outcome) : Bool :=
  match outcome with
  | .gone | .notActive | .heldSale | .failed =>
    decide (now - recheckInterval outcome ≤ createdAt)
  | .pending | .unknown | .unproven => true
  | .renewed | .notDue => false

/-- The ledger refuses a renewal because of the row: it is unresolved, it has the key of the
cycle, or it has the unresolved key of the offer. -/
def Check.refuses (lib : Library) (account : Option Nat) (offer : String) (previous : Int)
    (c : Check) : Prop :=
  (c.integrationAccount = account ∧ c.offerId = offer ∧ c.outcome.unresolved = true) ∨
    c.cycleKey = some (renewalCycleKey lib account offer previous) ∨
    c.unresolvedKey = some (unresolvedOfferKey lib account offer)

/-- A later run at `now` is refused because of run `i`: the listing is not picked, or the ledger
holds a row of that run against it. -/
def RefusedBecauseOf (lib : Library) (i : Nat) (listing : Listing) (previous now : Int)
    (createdAt : Nat → Int) (s : Ledger) : Prop :=
  ∃ k c, s.checks.get? k = some c ∧ c.run = i ∧
    (recentlyChecked now (createdAt k) c.outcome = true ∨
      c.refuses lib listing.integrationAccount (offerId listing) previous)

/-- **What the ledger checks**, row by row: `_unresolved`, the cycle key, and the two unique
columns at the insertion. -/
theorem ledger_admits_iff (lib : Library) (s : Ledger) (listing : Listing) (previous : Int) :
    (∀ k c, s.checks.get? k = some c →
        ¬c.refuses lib listing.integrationAccount (offerId listing) previous) ↔
      unresolved s listing = false ∧
        s.checks.holds Check.cycleKey
          (some (renewalCycleKey lib listing.integrationAccount (offerId listing) previous)) = false ∧
        s.checks.holds Check.unresolvedKey
          (some (unresolvedOfferKey lib listing.integrationAccount (offerId listing))) = false := by
  rw [Table.holds_eq_false_iff, Table.holds_eq_false_iff, unresolved, Table.any_eq_false_iff]
  constructor
  · intro h
    refine ⟨fun k c hc => ?_, fun x hx k c hc hkey => ?_, fun x hx k c hc hkey => ?_⟩
    · rw [Bool.eq_false_iff]
      intro hrow
      simp only [Bool.and_eq_true, beq_iff_eq] at hrow
      exact h k c hc (.inl ⟨hrow.1.1, hrow.1.2, hrow.2⟩)
    · cases hx
      exact h k c hc (.inr (.inl hkey))
    · cases hx
      exact h k c hc (.inr (.inr hkey))
  · rintro ⟨hunresolved, hcycle, hoffer⟩ k c hc (⟨haccount, hid, hout⟩ | hkey | hkey)
    · have := hunresolved k c hc
      simp [haccount, hid, hout] at this
    · exact hcycle _ rfl k c hc hkey
    · exact hoffer _ rfl k c hc hkey

/-! ### Refusals -/

/-- A decision of the code that nothing was renewed, and not the end of a run by an exception. -/
structure Controlled (d : RenewalDecision) : Prop where
  outcome : d.outcome = .failed ∨ d.outcome = .heldSale
  noException : d.stopRun = true → d.reason ≠ "local_check_failed" ∧ d.reason ≠ "ledger_unavailable"

/-- A proven local refusal: no update call was made. -/
structure LocalRefusal (d : RenewalDecision) : Prop extends Controlled d where
  noWrite : d.writesAttempted = 0

/-- The decision names no expiry, or this one. -/
def SameExpiry (d : RenewalDecision) (previous : Int) : Prop :=
  ∀ p, d.previous = some p → p = previous

/-- The local tables let the claim go on, after the read and at the claim itself. -/
def AdmitsClaim (r : Run) : Prop :=
  ∃ w fresh w' again,
    r.world .afterRead = .ok w ∧ freshListing w r.listing = some fresh ∧
      hasSaleOrOpenOrder w fresh = false ∧
    r.world .claim = .ok w' ∧ w'.inTransaction = false ∧
      freshListing w' fresh = some again ∧ hasSaleOrOpenOrder w' again = false

/-- Everything a run is answered up to the insertion of its attempt lets it go on. -/
structure PassesClaim (lib : Library) (r : Run) : Prop where
  execute : r.execute = true
  entry : r.entry.inTransaction = false ∧ executeEnabled r.entry = true
  identity : r.listing.pk ≠ 0 ∧ r.listing.integrationAccount.getD 0 ≠ 0 ∧
    offerId r.listing ≠ "" ∧ (offerId r.listing).length ≤ 64
  start : ∃ w fresh, r.world .start = .ok w ∧ freshListing w r.listing = some fresh
  client : ∃ client, r.client = .ok client ∧ client.offerMutation = true ∧
    (r.injectedSave = true ∨ client.updateOfferOnce = true)
  admitted : r.admitted = .ok true
  due : ∃ first, r.first = .ok first ∧
    decideFromLiveOffer lib (offerId r.listing) first r.cutoff = none ∧
    (parseExpireDate lib first.live.expireDate).isSome = true
  budget : ∀ budget, r.readBudget = some budget → 3 ≤ budget
  claim : AdmitsClaim r

/-! ### The rows of one run -/

/-- The rows of the ledger that run `i` wrote. -/
def ownRows (i : Nat) (s : Ledger) (k : Nat) : Option Check :=
  (s.checks.get? k).filter fun c => c.run == i

@[simp] theorem ownRows_eq_some : ownRows i s k = some c ↔ s.checks.get? k = some c ∧ c.run = i := by
  simp [ownRows, Option.filter_eq_some_iff]

/-- A transaction of run `i` writes rows of its own only. -/
def OwnsOnly (i : Nat) (s s' : Ledger) : Prop :=
  ∀ k c, c.run ≠ i → (s'.checks.get? k = some c ↔ s.checks.get? k = some c)

theorem OwnsOnly.refl (s : Ledger) : OwnsOnly i s s := by
  intro k c _
  exact Iff.rfl

/-- **What a run knows of its own rows stays true.** -/
theorem stable_ownRows (P : (Nat → Option Check) → Prop) :
    Stable (Others OwnsOnly i) fun s => P (ownRows i s) := by
  rintro s s' hP ⟨j, hj, hown⟩
  have hsame : ownRows i s' = ownRows i s := by
    funext k
    ext c
    show ownRows i s' k = some c ↔ ownRows i s k = some c
    rw [ownRows_eq_some, ownRows_eq_some]
    constructor
    · rintro ⟨hc, hrun⟩
      exact ⟨(hown k c (by rw [hrun]; exact hj.symm)).mp hc, hrun⟩
    · rintro ⟨hc, hrun⟩
      exact ⟨(hown k c (by rw [hrun]; exact hj.symm)).mpr hc, hrun⟩
  show P (ownRows i s')
  rw [hsame]
  exact hP

theorem ownsOnly_create (hnew : s.create c = some s') (hrun : c.run = i) : OwnsOnly i s s' := by
  intro k e he
  rw [(Ledger.create_some hnew).1, Table.get?_create]
  split
  · rename_i hk
    subst hk
    rw [Table.get?_nextKey]
    constructor
    · intro heq
      cases heq
      exact absurd hrun he
    · exact nofun
  · exact Iff.rfl

theorem ownRows_create (hnew : s.create c = some s') (hrun : c.run = i) (k : Nat) :
    ownRows i s' k = if k = s.checks.nextKey then some c else ownRows i s k := by
  unfold ownRows
  rw [(Ledger.create_some hnew).1, Table.get?_create]
  split
  · simp [Option.filter, hrun]
  · rfl

theorem ownsOnly_save {a : Nat} (hc : s.checks.get? a = some c) (hrun : c.run = i) :
    OwnsOnly i s (s.save a d) := by
  intro k e he
  rw [get?_save]
  by_cases hk : k = a
  · subst hk
    rw [hc]
    simp only [Option.map_some, ↓reduceIte, Option.some.injEq]
    constructor
    · rintro rfl
      exact absurd hrun he
    · rintro rfl
      exact absurd hrun he
  · simp [hk]

theorem ownRows_save {a : Nat} (hc : ownRows i s a = some c) :
    ownRows i (s.save a d) a = some (c.finalized d) := by
  rw [ownRows_eq_some] at hc ⊢
  rw [get?_save, hc.1]
  simp only [Option.map_some, ↓reduceIte, true_and]
  exact hc.2

/-! ### Stages, by what they do to the rows of the run -/

/-- The judgement about the rows of run `i`. -/
def OwnTriple (i : Nat) {α : Type} (P : (Nat → Option Check) → Prop) (p : Proc Ledger α)
    (Q : α → (Nat → Option Check) → Prop) : Prop :=
  RelyTriple (Others OwnsOnly i) (OwnsOnly i) (fun s => P (ownRows i s)) p
    fun a s => Q a (ownRows i s)

namespace OwnTriple

variable {α β : Type} {P P' : (Nat → Option Check) → Prop}
  {Q : α → (Nat → Option Check) → Prop} {Q' : β → (Nat → Option Check) → Prop}

theorem pure {a : α} (h : ∀ rows, P rows → Q a rows) : OwnTriple i P (pure a) Q :=
  RelyTriple.pure (stable_ownRows P) fun _ hs => h _ hs

theorem bind {p : Proc Ledger α} {next : α → Proc Ledger β} (h : OwnTriple i P p Q)
    (hnext : ∀ a, OwnTriple i (Q a) (next a) Q') : OwnTriple i P (p >>= next) Q' :=
  RelyTriple.bind h hnext

theorem read {f : Ledger → α} : OwnTriple i P (Proc.read f) fun _ => P :=
  RelyTriple.read OwnsOnly.refl (stable_ownRows P)

theorem atomic {f : Ledger → α × Ledger}
    (h : ∀ s, P (ownRows i s) → OwnsOnly i s (f s).2 ∧ Q (f s).1 (ownRows i (f s).2)) :
    OwnTriple i P (Proc.atomic f) Q :=
  RelyTriple.atomic (stable_ownRows P) (fun a => stable_ownRows (Q a)) h

theorem conseq {p : Proc Ledger α} {Q' : α → (Nat → Option Check) → Prop} (h : OwnTriple i P p Q)
    (hP : ∀ rows, P' rows → P rows) (hQ : ∀ a rows, Q a rows → Q' a rows) :
    OwnTriple i P' p Q' :=
  RelyTriple.conseq h (fun _ hs => hP _ hs) fun a _ hs => hQ a _ hs

end OwnTriple

/-- The run has written no row. -/
def NoRows (rows : Nat → Option Check) : Prop := ∀ k, rows k = none

/-- The attempt of `x` is a row of the run, under its cycle key. -/
def Attempted (lib : Library) (x : Send) (rows : Nat → Option Check) : Prop :=
  ∃ c, rows x.attempt = some c ∧
    c.cycleKey = some (renewalCycleKey lib x.integrationAccount x.offerId x.previous)

/-- A row without keys, with the outcome of the decision. -/
def Observed (d : RenewalDecision) (rows : Nat → Option Check) : Prop :=
  ∀ k c, rows k = some c → c.cycleKey = none ∧ c.unresolvedKey = none ∧ c.outcome = d.outcome

/-- What the attempt of a run is made for. -/
def Run.sendOf (r : Run) (previous : Int) (attempt : Nat) : Send :=
  ⟨r.listing.integrationAccount, offerId r.listing, previous, attempt⟩

theorem sendOf_eq {w w' : World} {fresh again : Listing} (hfresh : freshListing w r.listing = some fresh)
    (hagain : freshListing w' fresh = some again) (previous : Int) (attempt : Nat) :
    (⟨again.integrationAccount, offerId again, previous, attempt⟩ : Send)
      = r.sendOf previous attempt := by
  obtain ⟨haccount, hoffer⟩ := freshListing_some hfresh
  obtain ⟨haccount', hoffer'⟩ := freshListing_some hagain
  rw [Run.sendOf, haccount', haccount, hoffer', hoffer]

/-- What the insertion of `_claim` leaves. -/
theorem own_createAttempt (commit : Commit) (fresh : Listing) (previous : Int) :
    OwnTriple i NoRows (Proc.atomic (createAttempt lib i commit fresh previous))
      fun answer rows => ∀ claimed, answer = .ok claimed → ∃ a, claimed = .attempt a ∧
        Attempted lib ⟨fresh.integrationAccount, offerId fresh, previous, a.pk⟩ rows := by
  apply OwnTriple.atomic
  intro s _
  rw [createAttempt]
  split
  · exact ⟨OwnsOnly.refl s, fun claimed h => by cases h⟩
  · next s' hnew =>
    have howns := ownsOnly_create (i := i) hnew rfl
    cases commit with
    | done =>
      refine ⟨howns, fun claimed h => ?_⟩
      cases h
      have hrow := ownRows_create hnew rfl s.checks.nextKey
      rw [if_pos rfl] at hrow
      exact ⟨_, rfl, _, hrow, rfl⟩
    | rolledBack => exact ⟨OwnsOnly.refl s, fun claimed h => by cases h⟩
    | lost => exact ⟨howns, fun claimed h => by cases h⟩

/-- **How `_claim` ends**: with an attempt, or with a decision before the insertion. -/
theorem own_claim {w : World} {fresh : Listing} {previous : Int}
    (hworld : r.world .afterRead = .ok w) (hfresh : freshListing w r.listing = some fresh)
    (hsale : hasSaleOrOpenOrder w fresh = false) :
    OwnTriple i NoRows (claim lib i r fresh previous) fun answer rows =>
      (∀ a, answer = .ok (.attempt a) → Attempted lib (r.sendOf previous a.pk) rows ∧
        AdmitsClaim r) ∧
      (∀ d, answer = .ok (.refused d) → NoRows rows ∧ (Controlled d → ¬PassesClaim lib r)) := by
  -- an answer before the insertion, given why the insertion is not reached
  have refused : ∀ d, (Controlled d → ¬PassesClaim lib r) →
      OwnTriple i NoRows (pure (.ok (.refused d)) : Proc Ledger (Except Raised Claimed))
        fun answer rows =>
          (∀ a, answer = .ok (.attempt a) → Attempted lib (r.sendOf previous a.pk) rows ∧
            AdmitsClaim r) ∧
          (∀ d, answer = .ok (.refused d) → NoRows rows ∧ (Controlled d → ¬PassesClaim lib r)) := by
    intro d hd
    apply OwnTriple.pure
    intro rows hrows
    refine ⟨(fun a h => by cases h), fun d' h => ?_⟩
    cases h
    exact ⟨hrows, hd⟩
  -- the listing of the read is the one `PassesClaim` speaks of
  have passes : PassesClaim lib r → ∃ w' again, r.world .claim = .ok w' ∧
      w'.inTransaction = false ∧ freshListing w' fresh = some again ∧
      hasSaleOrOpenOrder w' again = false := by
    intro h
    obtain ⟨w₁, fresh₁, w', again, hw, hf, -, hclaim, htx, hagain, hheld⟩ := h.claim
    rw [hworld] at hw
    cases hw
    rw [hfresh] at hf
    cases hf
    exact ⟨w', again, hclaim, htx, hagain, hheld⟩
  rw [claim]
  split
  · apply OwnTriple.pure
    intro rows _
    exact ⟨(fun a h => by cases h), fun d h => by cases h⟩
  next w' hclaim =>
  split
  · next htx =>
    apply refused
    intro _ h
    obtain ⟨w₂, again, hw, hfree, -⟩ := passes h
    rw [hclaim] at hw
    cases hw
    rw [hfree] at htx
    cases htx
  next htx =>
  split
  · next hnone =>
    apply refused
    intro _ h
    obtain ⟨w₂, again, hw, -, hagain, -⟩ := passes h
    rw [hclaim] at hw
    cases hw
    rw [hnone] at hagain
    cases hagain
  next again hagain =>
  split
  · next hheld =>
    apply refused
    intro _ h
    obtain ⟨w₂, again', hw, -, hagain', hfree⟩ := passes h
    rw [hclaim] at hw
    cases hw
    rw [hagain] at hagain'
    cases hagain'
    rw [hfree] at hheld
    cases hheld
  next hheld =>
  apply OwnTriple.bind OwnTriple.read
  intro held
  split
  · apply refused
    intro hd
    rcases hd.outcome with h | h <;> cases h
  apply OwnTriple.bind OwnTriple.read
  intro checked
  split
  · apply refused
    intro hd
    rcases hd.outcome with h | h <;> cases h
  · apply OwnTriple.conseq (own_createAttempt r.claimCommit again previous) (fun _ h => h)
    intro answer rows hanswer
    refine ⟨fun a h => ?_, fun d h => ?_⟩
    · obtain ⟨a', heq, hattempt⟩ := hanswer _ h
      cases heq
      rw [sendOf_eq hfresh hagain] at hattempt
      exact ⟨hattempt, w, fresh, w', again, hworld, hfresh, hsale, hclaim, by simpa using htx,
        hagain, by simpa using hheld⟩
    · obtain ⟨a', heq, -⟩ := hanswer _ h
      cases heq

/-! ### From the attempt to the end -/

/-- A call changes no row. -/
theorem own_sendOnce {P : (Nat → Option Check) → Prop} (x : Send) :
    OwnTriple i P (sendOnce r x) fun _ => P :=
  OwnTriple.atomic fun s hs => ⟨OwnsOnly.refl s, hs⟩

theorem own_defaultSave {P : (Nat → Option Check) → Prop} (client : Client) (listing : Listing)
    (x : Send) :
    OwnTriple i P (defaultSave r client listing x l) fun p rows =>
      p.1.attempt = l.attempt ∧ P rows := by
  have refused : ∀ p : Locals × Except PreSend Bool, p.1.attempt = l.attempt →
      OwnTriple i P (pure p) fun p rows => p.1.attempt = l.attempt ∧ P rows :=
    fun _ hp => OwnTriple.pure fun _ hs => ⟨hp, hs⟩
  rw [defaultSave]
  split
  · exact refused _ rfl
  split
  · exact refused _ rfl
  split
  · exact refused _ rfl
  · exact refused _ rfl
  split
  · exact refused _ rfl
  split
  · exact refused _ rfl
  · exact refused _ rfl
  · apply OwnTriple.bind (own_sendOnce x)
    intro saved
    exact OwnTriple.pure fun _ hs => ⟨rfl, hs⟩

/-- Every decision after the claim names the expiry of the attempt. -/
theorem afterSend_previous {previous : Int} {saved : Except PreSend Bool} {l' : Locals}
    (h : afterSend lib r l previous saved = .decided l' d) : d.previous = some previous := by
  unfold afterSend at h
  split at h
  · cases h
    rfl
  · cases h
  · cases h
    rfl
  · split at h
    · cases h
    · cases h
      unfold decideAfterSave
      split
      · rfl
      split
      · rfl
      dsimp only
      split
      · rfl
      split
      · split <;> rfl
      · rfl

/-- How the guarded part of a run leaves its rows. -/
def Leaves (lib : Library) (r : Run) (rows : Nat → Option Check) : Ending → Prop
  | .returned d => NoRows rows ∧ (Controlled d → ¬PassesClaim lib r)
  | .decided l d =>
    match l.attempt with
    | some a => ∃ previous, d.previous = some previous ∧ PassesClaim lib r ∧
        Attempted lib (r.sendOf previous a.pk) rows
    | none => NoRows rows ∧ (Controlled d → ¬PassesClaim lib r)
  | .raised l _ => ∀ a, l.attempt = some a → ∃ c, rows a.pk = some c

theorem own_sendAndVerify {client : Client} {fresh : Listing} {previous : Int} {a : Attempt}
    (ha : l.attempt = some a) (hpasses : PassesClaim lib r) :
    OwnTriple i (Attempted lib (r.sendOf previous a.pk))
      (sendAndVerify lib r client fresh previous a l) fun e rows => Leaves lib r rows e := by
  have ends : ∀ (l' : Locals) saved rows, l'.attempt = some a →
      Attempted lib (r.sendOf previous a.pk) rows →
      Leaves lib r rows (afterSend lib r l' previous saved) := by
    intro l' saved rows hl' hrows
    have hattempt : (afterSend lib r l' previous saved).locals.attempt = l'.attempt :=
      afterSend_attempt previous saved
    cases hend : afterSend lib r l' previous saved with
    | returned d =>
      unfold afterSend at hend
      split at hend <;> try cases hend
      split at hend <;> cases hend
    | decided l'' d =>
      rw [hend, hl'] at hattempt
      have hattempt : l''.attempt = some a := hattempt
      simp only [Leaves, hattempt]
      exact ⟨previous, afterSend_previous hend, hpasses, hrows⟩
    | raised l'' e =>
      rw [hend, hl'] at hattempt
      have hattempt : l''.attempt = some a := hattempt
      intro b hb
      rw [hattempt] at hb
      cases hb
      obtain ⟨c, hc, -⟩ := hrows
      exact ⟨c, hc⟩
  rw [sendAndVerify]
  split
  · exact OwnTriple.pure fun rows hrows => ends l _ rows ha hrows
  dsimp only
  split
  · apply OwnTriple.bind (own_sendOnce _)
    intro saved
    exact OwnTriple.pure fun rows hrows => ends _ saved rows ha hrows
  · apply OwnTriple.bind (own_defaultSave client fresh _)
    rintro ⟨l', saved⟩
    exact OwnTriple.pure fun rows hrows => ends l' saved rows (hrows.1.trans ha) hrows.2

/-! ### The stages before the claim -/

/-- An end before the claim. -/
theorem own_decided (hl : l.attempt = none) (hd : Controlled d → ¬PassesClaim lib r) :
    OwnTriple i NoRows (pure (.decided l d)) fun e rows => Leaves lib r rows e := by
  apply OwnTriple.pure
  intro rows hrows
  simp only [Leaves, hl]
  exact ⟨hrows, hd⟩

theorem own_raised {P : (Nat → Option Check) → Prop} (hl : l.attempt = none) (e : Raised) :
    OwnTriple i P (pure (.raised l e)) fun e rows => Leaves lib r rows e := by
  apply OwnTriple.pure
  intro rows _ a ha
  rw [hl] at ha
  cases ha

theorem own_returned (hd : Controlled d → ¬PassesClaim lib r) :
    OwnTriple i NoRows (pure (.returned d)) fun e rows => Leaves lib r rows e :=
  OwnTriple.pure fun _ hrows => ⟨hrows, hd⟩

theorem own_underLease {client : Client} {admitted : Bool} (hexecute : r.execute = true →
      r.entry.inTransaction = false ∧ executeEnabled r.entry = true)
    (hidentity : r.listing.pk ≠ 0 ∧ r.listing.integrationAccount.getD 0 ≠ 0 ∧
      offerId r.listing ≠ "" ∧ (offerId r.listing).length ≤ 64)
    (hstart : ∃ w fresh, r.world .start = .ok w ∧ freshListing w r.listing = some fresh)
    (hclient : ∃ client, r.client = .ok client ∧ client.offerMutation = true ∧
      (r.execute = true → r.injectedSave = true ∨ client.updateOfferOnce = true))
    (hadmitted : r.admitted = .ok admitted) :
    OwnTriple i NoRows (underLease lib i r client admitted) fun e rows => Leaves lib r rows e := by
  rw [underLease.eq_def]
  dsimp only
  split
  · apply own_returned
    intro _ h
    have := h.admitted
    rw [hadmitted] at this
    cases this
  · exact own_raised rfl _
  next first hfirst =>
  split
  · next d hd =>
    apply own_decided rfl
    intro _ h
    obtain ⟨first', hfirst', hnone, -⟩ := h.due
    rw [hfirst] at hfirst'
    cases hfirst'
    rw [hd] at hnone
    cases hnone
  · exact own_raised rfl _
  next previous hdecide hprevious =>
  split
  · exact own_raised rfl _
  next w hworld =>
  split
  · next hnone =>
    apply own_decided rfl
    intro _ h
    obtain ⟨w₁, fresh, -, -, hw, hfresh, -⟩ := h.claim
    rw [hworld] at hw
    cases hw
    rw [hnone] at hfresh
    cases hfresh
  next fresh hfresh =>
  split
  · next hheld =>
    apply own_decided rfl
    intro _ h
    obtain ⟨w₁, fresh', -, -, hw, hfresh', hfree, -⟩ := h.claim
    rw [hworld] at hw
    cases hw
    rw [hfresh] at hfresh'
    cases hfresh'
    rw [hfree] at hheld
    cases hheld
  next hheld =>
  split
  · apply own_decided rfl
    intro hd
    rcases hd.outcome with h | h <;> cases h
  next hexec =>
  split
  · apply own_decided rfl
    intro hd
    rcases hd.outcome with h | h <;> cases h
  next hbudget =>
  apply OwnTriple.bind (own_claim hworld hfresh (by simpa using hheld))
  have hexec : r.execute = true := by simpa using hexec
  rintro (e | (a | d))
  · exact own_raised rfl e
  · -- every check up to the insertion has passed
    have hpasses : AdmitsClaim r → PassesClaim lib r := by
      intro hclaim
      obtain ⟨client, hclient, hmutation, honce⟩ := hclient
      exact {
        execute := hexec
        entry := hexecute hexec
        identity := hidentity
        start := hstart
        client := ⟨client, hclient, hmutation, honce hexec⟩
        admitted := hadmitted
        due := ⟨first, hfirst, hdecide, by rw [hprevious]; rfl⟩
        budget := by
          intro budget hb
          simp only [hb, Option.any_some, decide_eq_true_eq] at hbudget
          omega
        claim := hclaim }
    apply RelyTriple.conseq (P := fun s => PassesClaim lib r ∧
      Attempted lib (r.sendOf previous a.pk) (ownRows i s)) _ _ (fun _ _ h => h)
    · intro s hs
      exact own_sendAndVerify rfl hs.1 s hs.2
    · intro s hs
      obtain ⟨hattempt, hclaim⟩ := hs.1 a rfl
      exact ⟨hpasses hclaim, hattempt⟩
  · apply OwnTriple.pure
    intro rows hrows
    exact hrows.2 d rfl

theorem own_guarded (hexecute : r.execute = true →
      r.entry.inTransaction = false ∧ executeEnabled r.entry = true)
    (hidentity : r.listing.pk ≠ 0 ∧ r.listing.integrationAccount.getD 0 ≠ 0 ∧
      offerId r.listing ≠ "" ∧ (offerId r.listing).length ≤ 64) :
    OwnTriple i NoRows (guarded lib i r) fun e rows => Leaves lib r rows e := by
  rw [guarded]
  split
  · exact own_raised rfl _
  next w hworld =>
  split
  · next hnone =>
    apply own_returned
    intro _ h
    obtain ⟨w₁, fresh, hw, hfresh⟩ := h.start
    rw [hworld] at hw
    cases hw
    rw [hnone] at hfresh
    cases hfresh
  next fresh hfresh =>
  apply OwnTriple.bind OwnTriple.read
  intro held
  split
  · apply own_returned
    intro hd
    rcases hd.outcome with h | h <;> cases h
  split
  · exact own_raised rfl _
  next client hclient =>
  split
  · next hmutation =>
    apply own_returned
    intro _ h
    obtain ⟨client', hclient', hyes, -⟩ := h.client
    rw [hclient] at hclient'
    cases hclient'
    rw [hyes] at hmutation
    cases hmutation
  next hmutation =>
  split
  · next honce =>
    apply own_returned
    intro _ h
    obtain ⟨client', hclient', -, hyes⟩ := h.client
    rw [hclient] at hclient'
    cases hclient'
    simp only [Bool.and_eq_true, Bool.not_eq_true'] at honce
    rcases hyes with hyes | hyes
    · rw [hyes] at honce
      exact absurd honce.1.2 (by decide)
    · rw [hyes] at honce
      exact absurd honce.2 (by decide)
  next honce =>
  split
  · exact own_raised rfl _
  next admitted hadmitted =>
  have honce' : r.execute = true → r.injectedSave = true ∨ client.updateOfferOnce = true := by
    intro hexec
    rw [hexec] at honce
    cases hsave : r.injectedSave <;> cases hupdate : client.updateOfferOnce <;>
      simp_all
  apply OwnTriple.bind (own_underLease hexecute hidentity ⟨w, fresh, hworld, hfresh⟩
    ⟨client, hclient, by simpa using hmutation, honce'⟩ hadmitted)
  intro e
  split
  · -- the lease could not be given back: the ending is forgotten, its attempt is not
    apply OwnTriple.pure
    intro rows hleaves a ha
    cases e with
    | returned d => cases ha
    | decided l d =>
      have ha : l.attempt = some a := ha
      simp only [Leaves, ha] at hleaves
      obtain ⟨previous, -, -, c, hc, -⟩ := hleaves
      exact ⟨c, hc⟩
    | raised l e => exact hleaves a ha
  · exact OwnTriple.pure fun _ h => h

/-! ### The end of a run -/

/-- What a refused run leaves in the ledger. -/
def LeavesRefused (lib : Library) (r : Run) (d : RenewalDecision) (rows : Nat → Option Check) :
    Prop :=
  LocalRefusal d →
    (PassesClaim lib r ∧ ∃ previous a, d.previous = some previous ∧
      Attempted lib (r.sendOf previous a) rows) ∨
    (¬PassesClaim lib r ∧ Observed d rows)

theorem leavesRefused_of_not {rows : Nat → Option Check} (h : ¬Controlled d) :
    LeavesRefused lib r d rows :=
  fun hd => absurd hd.toControlled h

theorem observed_of_noRows {rows : Nat → Option Check} (h : NoRows rows) : Observed d rows := by
  intro k c hc
  rw [h k] at hc
  cases hc

/-- A run that could not write its row has not been refused. -/
theorem not_controlled_unavailable {l : Locals} {previous : Option Int} {writes reads : Nat} :
    ¬Controlled { outcome := l.doubt, reason := "ledger_unavailable", previous := previous,
                  stopRun := true, writesAttempted := writes, readsUsed := reads } :=
  fun h => (h.noException rfl).2 rfl

theorem not_controlled_onException (l : Locals) (e : Raised) : ¬Controlled (onException l e) := by
  intro h
  cases hattempt : l.attempt with
  | none =>
    have hreason := h.noException (by cases e <;> rfl)
    cases e with
    | integrityError => exact hreason.2 rfl
    | other => exact hreason.1 (by simp [onException, hattempt])
  | some a =>
    rcases h.outcome with hout | hout <;> cases e <;> simp [onException, Locals.doubt, hattempt] at hout

/-- What `_finalize` settles on is the decision, or a doubt. -/
theorem finalDecision_cases (w : World) (listing : Listing) (d : RenewalDecision) :
    finalDecision w listing d = d ∨ (finalDecision w listing d).outcome = .unknown := by
  unfold finalDecision
  dsimp only
  split
  · exact .inr rfl
  · exact .inl rfl

/-- The row of an attempt that is finalized keeps its cycle key. -/
theorem attempted_save {x : Send} (h : Attempted lib x (ownRows i s)) :
    Attempted lib x (ownRows i (s.save x.attempt d)) := by
  obtain ⟨c, hc, hcycle⟩ := h
  exact ⟨c.finalized d, ownRows_save hc, hcycle⟩

/-- A transaction that finalizes an attempt. -/
theorem own_finalize {P : (Nat → Option Check) → Prop} (a : Attempt) (d : RenewalDecision)
    (hown : ∀ rows, P rows → ∃ c, rows a.pk = some c)
    (hkeep : ∀ s d, P (ownRows i s) → P (ownRows i (s.save a.pk d))) :
    OwnTriple i P (finalize r a d) fun answer rows => P rows ∧
      ∀ d', answer = .ok d' → d' = d ∨ d'.outcome = .unknown := by
  rw [finalize]
  split
  · exact OwnTriple.pure fun rows hrows => ⟨hrows, fun d' h => by cases h⟩
  next w _ =>
  apply OwnTriple.atomic
  intro s hs
  obtain ⟨c, hc⟩ := hown _ hs
  obtain ⟨hget, hrun⟩ := ownRows_eq_some.mp hc
  rw [hget]
  dsimp only
  split
  · have hsettled := finalDecision_cases w r.listing d
    cases r.finalizeCommit with
    | done =>
      refine ⟨ownsOnly_save hget hrun, hkeep s _ hs, fun d' h => ?_⟩
      cases h
      exact hsettled
    | rolledBack => exact ⟨OwnsOnly.refl s, hs, fun d' h => by cases h⟩
    | lost => exact ⟨ownsOnly_save hget hrun, hkeep s _ hs, fun d' h => by cases h⟩
  · exact ⟨OwnsOnly.refl s, hs, fun d' h => by cases h⟩

/-- The observation a run leaves. -/
theorem own_record {P : (Nat → Option Check) → Prop} (d : RenewalDecision) :
    OwnTriple i P (record i r d) fun answer rows =>
      answer = .ok () → (∀ rows, P rows → NoRows rows) → Observed d rows := by
  apply OwnTriple.atomic
  intro s hs
  split
  · exact ⟨OwnsOnly.refl s, fun h => by cases h⟩
  · next s' hnew =>
    have howns := ownsOnly_create (i := i) hnew rfl
    cases r.recordCommit with
    | done =>
      refine ⟨howns, fun _ hP k c hc => ?_⟩
      have hrow := ownRows_create (i := i) hnew rfl k
      rw [hP _ hs k] at hrow
      split at hrow
      · have heq := hrow.symm.trans hc
        cases heq
        exact ⟨rfl, rfl, rfl⟩
      · have heq := hrow.symm.trans hc
        cases heq
    | rolledBack => exact ⟨OwnsOnly.refl s, fun h => by cases h⟩
    | lost => exact ⟨howns, fun h => by cases h⟩

/-- The decision with the counts of the run. -/
theorem controlled_counted {writes reads : Nat}
    (h : Controlled { d with writesAttempted := writes, readsUsed := reads }) : Controlled d :=
  ⟨h.outcome, h.noException⟩

theorem own_conclude_attempt {P : (Nat → Option Check) → Prop} {a : Attempt}
    (hl : l.attempt = some a) (hown : ∀ rows, P rows → ∃ c, rows a.pk = some c)
    (hkeep : ∀ s d, P (ownRows i s) → P (ownRows i (s.save a.pk d)))
    (hpost : ∀ rows, P rows → LeavesRefused lib r
      { d with writesAttempted := l.writesAttempted, readsUsed := l.readsUsed } rows) :
    OwnTriple i P (conclude i r l d) (LeavesRefused lib r) := by
  rw [conclude]
  dsimp only
  split
  · exact OwnTriple.pure hpost
  rw [hl]
  apply OwnTriple.bind (own_finalize a _ hown hkeep)
  intro answer
  split
  · next d' =>
    apply OwnTriple.pure
    rintro rows ⟨hrows, hanswer⟩
    rcases hanswer d' rfl with rfl | hdoubt
    · exact hpost rows hrows
    · apply leavesRefused_of_not
      intro h
      rcases h.outcome with hout | hout <;> cases hdoubt.symm.trans hout
  · apply OwnTriple.pure
    rintro rows -
    exact leavesRefused_of_not not_controlled_unavailable

theorem own_conclude_none {P : (Nat → Option Check) → Prop} (hl : l.attempt = none)
    (hpost : Controlled d → ¬PassesClaim lib r ∧ ∀ rows, P rows → NoRows rows) :
    OwnTriple i P (conclude i r l d) (LeavesRefused lib r) := by
  rw [conclude]
  dsimp only
  split
  · apply OwnTriple.pure
    intro rows hrows hd
    obtain ⟨hpasses, hP⟩ := hpost (controlled_counted hd.toControlled)
    exact .inr ⟨hpasses, observed_of_noRows (hP rows hrows)⟩
  rw [hl]
  apply OwnTriple.bind (own_record _)
  have ended : ∀ {Q : (Nat → Option Check) → Prop} (d' : RenewalDecision),
      d' = { d with writesAttempted := l.writesAttempted, readsUsed := l.readsUsed } →
      (∀ rows, Q rows → (∀ rows, P rows → NoRows rows) → Observed d' rows) →
      OwnTriple i Q (pure d') (LeavesRefused lib r) := by
    intro Q d' heq hobserved
    apply OwnTriple.pure
    intro rows hrows hd
    rw [heq] at hd
    obtain ⟨hpasses, hP⟩ := hpost (controlled_counted hd.toControlled)
    exact .inr ⟨hpasses, hobserved rows hrows hP⟩
  have unavailable : ∀ {Q : (Nat → Option Check) → Prop},
      OwnTriple i Q
        (pure { outcome := l.doubt, reason := "ledger_unavailable", previous := l.previous,
                stopRun := true, writesAttempted := l.writesAttempted, readsUsed := l.readsUsed })
        (LeavesRefused lib r) := by
    intro Q
    apply OwnTriple.pure
    intro rows _
    exact leavesRefused_of_not not_controlled_unavailable
  rintro (e | ⟨⟩)
  · exact unavailable
  dsimp only
  split
  · split
    · exact unavailable
    · exact ended _ rfl fun rows hrows => hrows rfl
  · exact ended _ rfl fun rows hrows => hrows rfl

/-- **The rows a refused run leaves**: its attempt under the key of the cycle, or an observation
without keys. -/
theorem renewEldoradoListing_leaves (lib : Library) (i : Nat) (r : Run) :
    OwnTriple i NoRows (renewEldoradoListing lib i r) (LeavesRefused lib r) := by
  have returned : ∀ d, (Controlled d → ¬PassesClaim lib r) →
      OwnTriple i NoRows (pure d) (LeavesRefused lib r) := by
    intro d hd
    apply OwnTriple.pure
    intro rows hrows hrefused
    exact .inr ⟨hd hrefused.toControlled, observed_of_noRows hrows⟩
  rw [renewEldoradoListing]
  split
  · next htx =>
    apply returned
    intro _ h
    simp [h.entry.1] at htx
  next htx =>
  split
  · next hoff =>
    apply returned
    intro _ h
    simp [h.entry.2] at hoff
  next hoff =>
  split
  · apply returned
    intro hd
    rcases hd.outcome with h | h <;> cases h
  split
  · next hid =>
    apply returned
    intro _ h
    obtain ⟨hpk, haccount, hoffer, hlength⟩ := h.identity
    rcases hid with hid | hid | hid | hid
    · exact hpk hid
    · exact haccount hid
    · exact hoffer hid
    · omega
  next hid =>
  have hexecute : r.execute = true →
      r.entry.inTransaction = false ∧ executeEnabled r.entry = true := by
    intro hexec
    simpa [hexec] using And.intro htx hoff
  have hidentity : r.listing.pk ≠ 0 ∧ r.listing.integrationAccount.getD 0 ≠ 0 ∧
      offerId r.listing ≠ "" ∧ (offerId r.listing).length ≤ 64 := by
    simpa [not_or] using hid
  apply OwnTriple.bind (own_guarded hexecute hidentity)
  rintro (d | ⟨l, d⟩ | ⟨l, e⟩)
  · apply OwnTriple.pure
    rintro rows ⟨hrows, hd⟩ hrefused
    exact .inr ⟨hd hrefused.toControlled, observed_of_noRows hrows⟩
  · cases hl : l.attempt with
    | some a =>
      intro s hs
      simp only [Leaves, hl] at hs
      obtain ⟨previous, hprevious, hpasses, hattempt⟩ := hs
      apply own_conclude_attempt (P := Attempted lib (r.sendOf previous a.pk)) hl
      · rintro rows ⟨c, hc, -⟩
        exact ⟨c, hc⟩
      · exact fun s d h => attempted_save h
      · exact fun rows hrows _ => .inl ⟨hpasses, previous, a.pk, hprevious, hrows⟩
      · exact hattempt
    | none =>
      intro s hs
      simp only [Leaves, hl] at hs
      exact own_conclude_none hl (fun hd => ⟨hs.2 hd, fun _ h => h⟩) s hs.1
  · cases hl : l.attempt with
    | some a =>
      apply OwnTriple.conseq (own_conclude_attempt (P := fun rows => ∃ c, rows a.pk = some c) hl
        (fun _ h => h) _ _) (fun rows hrows => hrows a hl) (fun _ _ h => h)
      · rintro s d ⟨c, hc⟩
        exact ⟨_, ownRows_save hc⟩
      · intro rows _
        exact leavesRefused_of_not fun h =>
          not_controlled_onException l e (controlled_counted h)
    | none => exact own_conclude_none hl fun h => absurd h (not_controlled_onException l e)

/-! ### Every schedule -/

theorem allSafe_own (runs : List Run) : AllSafe OwnsOnly (start lib runs) := by
  intro i p hp
  rw [start, List.getElem?_mapIdx] at hp
  obtain ⟨r, -, rfl⟩ := Option.map_eq_some_iff.mp hp
  refine RelyTriple.conseq (renewEldoradoListing_leaves lib i r) (fun _ hs => hs)
    (fun _ _ _ => trivial) _ ?_
  exact fun k => rfl

/-- What run `i` leaves when it ends, at any later time. -/
theorem leavesRefused_of_ended {runs : List Run} {schedule : List Nat} (hr : runs[i]? = some r)
    (hended : (run System.step (start lib runs) schedule).procs[i]? = some (.ret d)) :
    LeavesRefused lib r d (ownRows i (run System.step (start lib runs) schedule).store) := by
  have hsafe : ∀ p, (start lib runs).procs[i]? = some p →
      Safe (Others OwnsOnly i) (OwnsOnly i) (fun d s => LeavesRefused lib r d (ownRows i s)) p
        (start lib runs).store := by
    intro p hp
    rw [start, List.getElem?_mapIdx, hr] at hp
    cases hp
    apply renewEldoradoListing_leaves lib i r
    exact fun k => rfl
  exact answer_of_safe (allSafe_own runs) hsafe schedule hended

/-- **When a local refusal can be retried.**  A run is refused without a write.  Then no later run
for the offer and expiry, after the recheck interval, is refused because of it exactly if the
refusal came before the attempt was claimed: some check up to the insertion did not pass. -/
theorem local_refusal_retryable_iff (lib : Library) (runs : List Run) (schedule : List Nat)
    (i : Nat) (r : Run) (d : RenewalDecision) (hr : runs[i]? = some r)
    (hended : (run System.step (start lib runs) schedule).procs[i]? = some (.ret d))
    (hd : LocalRefusal d) :
    (∀ previous now createdAt, SameExpiry d previous →
        (∀ k, createdAt k + recheckInterval d.outcome < now) →
        ¬RefusedBecauseOf lib i r.listing previous now createdAt
          (run System.step (start lib runs) schedule).store) ↔
      ¬PassesClaim lib r := by
  have hleaves := leavesRefused_of_ended hr hended hd
  constructor
  · intro h hpasses
    rcases hleaves with ⟨-, previous, a, hprevious, c, hc, hcycle⟩ | ⟨hnot, -⟩
    · rw [ownRows_eq_some] at hc
      apply h previous 0 (fun _ => -recheckInterval d.outcome - 1)
      · intro p hp
        rw [hprevious] at hp
        exact (Option.some.inj hp).symm
      · intro k
        omega
      · exact ⟨_, c, hc.1, hc.2, .inr (.inr (.inl hcycle))⟩
    · exact hnot hpasses
  · rintro hnot previous now createdAt - hlate ⟨k, c, hc, hrun, hrefused⟩
    rcases hleaves with ⟨hpasses, -⟩ | ⟨-, hobserved⟩
    · exact hnot hpasses
    obtain ⟨hcycle, hkey, hout⟩ := hobserved k c (ownRows_eq_some.mpr ⟨hc, hrun⟩)
    have hresolved : c.outcome.unresolved = false := by
      rcases hd.outcome with h | h <;> rw [hout, h] <;> rfl
    rcases hrefused with hrecent | ⟨-, -, hun⟩ | hrow | hrow
    · have hold := hlate k
      rw [hout] at hrecent
      rcases hd.outcome with h | h <;>
      · rw [h] at hrecent hold
        simp only [recentlyChecked, decide_eq_true_eq] at hrecent
        omega
    · rw [hresolved] at hun
      cases hun
    · rw [hcycle] at hrow
      cases hrow
    · rw [hkey] at hrow
      cases hrow

/-- An order arrives between the read and the claim. -/
def heldRun : Run :=
  { openRun with
    world := fun site =>
      if site = .claim then
        .ok { openWorld with orders := [{ listing := some 7 }] }
      else .ok openWorld }

/-- The run is held before its claim, and a later run is not refused because of that. -/
theorem local_refusal_retryable_at_held :
    (∀ previous now createdAt,
        SameExpiry { outcome := .heldSale, reason := "local_sale_or_order", previous := some 10,
                     readsUsed := 1 } previous →
        (∀ k, createdAt k + recheckInterval .heldSale < now) →
        ¬RefusedBecauseOf plainLibrary 0 heldRun.listing previous now createdAt
          (run System.step (start plainLibrary [heldRun]) [0, 0]).store) ↔
      ¬PassesClaim plainLibrary heldRun :=
  local_refusal_retryable_iff plainLibrary [heldRun] [0, 0] 0 heldRun _ rfl (Proc.eq_ret_of_answer (by decide +kernel))
    { outcome := .inr rfl, noException := nofun, noWrite := rfl }

/-- The delivery details cannot be read. -/
def unreadRun : Run :=
  { openRun with credentialsOk := .ok false }

/-- The attempt of the refused run keeps its cycle key, so the cycle is never tried again. -/
theorem local_refusal_retryable_fails :
    ¬∀ (runs : List Run) (schedule : List Nat) (i : Nat) (r : Run) (d : RenewalDecision),
      runs[i]? = some r →
      (run System.step (start plainLibrary runs) schedule).procs[i]? = some (.ret d) →
      LocalRefusal d → ∀ previous now createdAt, SameExpiry d previous →
        (∀ k, createdAt k + recheckInterval d.outcome < now) →
        ¬RefusedBecauseOf plainLibrary i r.listing previous now createdAt
          (run System.step (start plainLibrary runs) schedule).store := by
  intro h
  apply h [unreadRun] [0, 0, 0, 0, 0] 0 unreadRun
    { outcome := .failed, reason := "credential_read_failed", previous := some 10,
      readsUsed := 2 }
    rfl (Proc.eq_ret_of_answer (by decide +kernel))
    { outcome := .inl rfl, noException := nofun, noWrite := rfl }
    10 0 (fun _ => -21600000001) (fun p hp => by cases hp; rfl) (fun _ => by decide)
  refine ⟨0, _, rfl, rfl, .inr (.inr (.inl rfl))⟩

end Sda.Eldorado
