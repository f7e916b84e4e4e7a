/-
Sda/Renewal/EldoradoOnce.lean

An Eldorado renewal is sent at most once.

The attempts are the claims of `Sda.Lib.Claim`, the sends the acts.  `Guar` says
what one run may do to the ledger: it respects the rows of the other runs, sends
only for an attempt it holds and has not sent for, and keeps every unresolved
attempt `Fenced`.  Each stage of a run keeps to it whatever the other runs do
meanwhile, so it holds of every step of every schedule; a run that is not
scheduled any more has crashed.

The send needs no look at the other attempts: while a run holds an attempt, the
unresolved key of the offer is taken, and no second row can carry it.
-/
import Sda.Lib.Claim
import Sda.Renewal.Eldorado

namespace Sda.Eldorado

variable {lib : Library} {i j k : Nat} {x y : Send} {s s' : Ledger} {r : Run} {l : Locals}

/-! ### What a run may do -/

/-- The row of the attempt of `x` is pending, under the keys of `x`. -/
structure Held (lib : Library) (x : Send) (c : Check) : Prop where
  pending : c.outcome = .pending
  cycleKey : c.cycleKey = some (renewalCycleKey lib x.integrationAccount x.offerId x.previous)
  unresolvedKey : c.unresolvedKey = some (unresolvedOfferKey lib x.integrationAccount x.offerId)

/-- The rows of the ledger as claims to send. -/
def attempts (lib : Library) : Claims Ledger Check Send where
  rows := Ledger.checks
  owner := Check.run
  log := Ledger.sends
  claim := Send.attempt
  held := Held lib
  kept x c := c.cycleKey = some (renewalCycleKey lib x.integrationAccount x.offerId x.previous)
  kept_of_held _ _ h := h.cycleKey

/-- Run `i` holds the attempt of `x` and has not sent for it. -/
abbrev Ready (lib : Library) (i : Nat) (x : Send) : Ledger → Prop :=
  (attempts lib).Ready i x

/-- The row `k` was written by run `i`. -/
abbrev Mine (lib : Library) (i k : Nat) : Ledger → Prop :=
  (attempts lib).Owns i k fun _ => True

theorem mine_of_ready (h : Ready lib i x s) : Mine lib i x.attempt s :=
  h.1.mono fun _ _ => trivial

/-- An unresolved attempt has the unresolved key of its offer. -/
def Fenced (lib : Library) (s : Ledger) : Prop :=
  ∀ k c, s.checks.get? k = some c → c.cycleKey.isSome → c.outcome.unresolved = true →
    c.unresolvedKey = some (unresolvedOfferKey lib c.integrationAccount c.offerId)

structure Valid (lib : Library) (s : Ledger) : Prop where
  once : (attempts lib).Once s
  fenced : Fenced lib s

/-- What a transaction of run `i` does to the ledger. -/
structure Guar (lib : Library) (i : Nat) (s s' : Ledger) : Prop where
  respects : (attempts lib).Respects i s s'
  fenced : Fenced lib s → Fenced lib s'

theorem Guar.refl (s : Ledger) : Guar lib i s s :=
  ⟨Claims.Respects.refl s, id⟩

theorem Guar.valid (h : Guar lib i s s') (hs : Valid lib s) : Valid lib s' :=
  ⟨hs.once.step h.respects, h.fenced hs.fenced⟩

theorem valid_empty : Valid lib .empty where
  once := ⟨fun x hx => absurd hx List.not_mem_nil, List.nodup_nil⟩
  fenced k c h := by cases h

/-- A new row: an observation, or an attempt under the key of its offer. -/
theorem guar_create {c : Check} (hnew : s.create c = some s')
    (hkey : c.cycleKey.isSome →
      c.unresolvedKey = some (unresolvedOfferKey lib c.integrationAccount c.offerId)) :
    Guar lib i s s' := by
  obtain ⟨hchecks, hsends⟩ := Ledger.create_some hnew
  refine ⟨Claims.Respects.create hchecks hsends, fun h k d hd hcycle hout => ?_⟩
  rw [hchecks, Table.get?_create] at hd
  split at hd
  · cases hd
    exact hkey hcycle
  · exact h k d hd hcycle hout

theorem get?_save (s : Ledger) (k a : Nat) (d : RenewalDecision) :
    (s.save a d).checks.get? k =
      (s.checks.get? k).map fun c => if k = a then c.finalized d else c :=
  Table.get?_mapRows _ _

/-- The row of an own pending attempt is finalized: a decision that leaves it unresolved
leaves it its key. -/
theorem guar_save {a : Nat} {c : Check} (hc : s.checks.get? a = some c) (hrun : c.run = i)
    (hpending : c.outcome = .pending) (d : RenewalDecision) : Guar lib i s (s.save a d) := by
  have hown : (s.save a d).checks.get? a = some (c.finalized d) := by
    rw [get?_save, hc, Option.map_some, if_pos rfl]
  have hother : ∀ k, k ≠ a → (s.save a d).checks.get? k = s.checks.get? k := by
    intro k hk
    rw [get?_save]
    simp [hk]
  refine ⟨Claims.Respects.update hc hrun hown hother rfl fun _ h => h, fun h => ?_⟩
  intro k e he hcycle hout
  by_cases hk : k = a
  · subst hk
    rw [hown] at he
    cases he
    have hout : d.outcome.unresolved = true := hout
    show (if d.outcome.unresolved then c.unresolvedKey else none) = _
    rw [if_pos hout]
    exact h k c hc hcycle (by rw [hpending]; rfl)
  · exact h k e ((hother k hk).symm.trans he) hcycle hout

/-- A call for an attempt the run holds and has not sent for. -/
theorem guar_send (hready : Ready lib i x s) : Guar lib i s (s.send x) :=
  ⟨Claims.Respects.act hready rfl rfl, id⟩

/-! ### What the other runs leave -/

theorem stable_valid : Stable (Others (Guar lib) i) (Valid lib) := by
  rintro s s' h ⟨j, -, hguar⟩
  exact hguar.valid h

theorem stable_mine : Stable (Others (Guar lib) i) (Mine lib i k) :=
  Claims.stable_owns fun _ _ _ h => h.respects

theorem stable_ready : Stable (Others (Guar lib) i) (Ready lib i x) :=
  Claims.stable_ready fun _ _ _ h => h.respects

/-! ### The stages of a run -/

/-- The judgement about the run number `i` against all others. -/
def Keeps (lib : Library) (i : Nat) {α : Type} (P : Ledger → Prop) (p : Proc Ledger α)
    (Q : α → Ledger → Prop) : Prop :=
  RelyTriple (Others (Guar lib) i) (Guar lib i) P p Q

/-- The attempt a stage ends with, if any, is the run's own. -/
def EndsMine (lib : Library) (i : Nat) (l : Locals) (s : Ledger) : Prop :=
  ∀ a, l.attempt = some a → Mine lib i a.pk s

theorem stable_endsMine : Stable (Others (Guar lib) i) (EndsMine lib i l) :=
  Stable.all fun _ => Stable.imp fun _ => stable_mine

theorem endsMine_of_none (h : l.attempt = none) : EndsMine lib i l s := by
  intro a ha
  rw [h] at ha
  cases ha

theorem freshListing_some {w : World} {listing fresh : Listing}
    (h : freshListing w listing = some fresh) :
    fresh.integrationAccount = listing.integrationAccount ∧ offerId fresh = offerId listing := by
  rw [freshListing] at h
  split at h
  · cases h
  · next row hrow =>
    have hmatch := List.find?_some hrow
    simp only [Bool.and_eq_true, beq_iff_eq] at hmatch
    obtain ⟨⟨⟨-, haccount⟩, hstore⟩, -⟩ := hmatch
    have heq : row = fresh := by
      split at h
      · cases h
      · split at h
        · cases h
        · split at h
          · cases h
          · split at h
            · exact Option.some.inj h
            · cases h
    subst heq
    exact ⟨haccount, by rw [offerId, offerId, hstore]⟩

/-- What the insertion of `_claim` returns is held by the run, and not sent for. -/
theorem keeps_createAttempt (commit : Commit) (fresh : Listing) (previous : Int) :
    Keeps lib i (Valid lib) (Proc.atomic (createAttempt lib i commit fresh previous))
      fun answer s => ∀ a, answer = .ok (.attempt a) →
        Ready lib i ⟨fresh.integrationAccount, offerId fresh, previous, a.pk⟩ s := by
  apply RelyTriple.atomic stable_valid
  · exact fun _ => Stable.all fun _ => Stable.imp fun _ => stable_ready
  intro s hs
  rw [createAttempt]
  split
  · exact ⟨Guar.refl s, fun a ha => by cases ha⟩
  · next s' hnew =>
    obtain ⟨hchecks, hsends⟩ := Ledger.create_some hnew
    have hready : Ready lib i
        ⟨fresh.integrationAccount, offerId fresh, previous, s.checks.nextKey⟩ s' := by
      have hget := congrArg (fun t => t.get? s.checks.nextKey) hchecks
      rw [Table.get?_create, if_pos rfl] at hget
      refine ⟨⟨_, hget, rfl, ⟨rfl, rfl, rfl⟩⟩, ?_⟩
      show s.checks.nextKey ∉ s'.sends.map Send.attempt
      rw [hsends]
      exact hs.once.fresh
    cases commit with
    | done =>
      refine ⟨guar_create hnew fun _ => rfl, fun a ha => ?_⟩
      cases ha
      exact hready
    | rolledBack => exact ⟨Guar.refl s, fun a ha => by cases ha⟩
    | lost => exact ⟨guar_create hnew fun _ => rfl, fun a ha => by cases ha⟩

/-- **`_claim` returns an attempt the run holds.** -/
theorem keeps_claim (fresh : Listing) (previous : Int) :
    Keeps lib i (Valid lib) (claim lib i r fresh previous) fun answer s =>
      ∀ a, answer = .ok (.attempt a) →
        Ready lib i ⟨fresh.integrationAccount, offerId fresh, previous, a.pk⟩ s := by
  have refused : ∀ answer : Except Raised Claimed, (∀ a, answer ≠ .ok (.attempt a)) →
      Keeps lib i (Valid lib) (pure answer) fun answer s => ∀ a, answer = .ok (.attempt a) →
        Ready lib i ⟨fresh.integrationAccount, offerId fresh, previous, a.pk⟩ s :=
    fun _ hne => RelyTriple.pure stable_valid fun _ _ a ha => absurd ha (hne a)
  rw [claim]
  split
  · exact refused _ fun a h => by cases h
  split
  · exact refused _ fun a h => by cases h
  split
  · exact refused _ fun a h => by cases h
  · next again hagain =>
    obtain ⟨haccount, hoffer⟩ := freshListing_some hagain
    split
    · exact refused _ fun a h => by cases h
    apply RelyTriple.bind (RelyTriple.read Guar.refl stable_valid)
    intro held
    split
    · exact refused _ fun a h => by cases h
    apply RelyTriple.bind (RelyTriple.read Guar.refl stable_valid)
    intro checked
    split
    · exact refused _ fun a h => by cases h
    · have hnew := @keeps_createAttempt lib i r.claimCommit again previous
      rw [haccount, hoffer] at hnew
      exact hnew

/-- A call is made only for an attempt the run holds. -/
theorem keeps_sendOnce :
    Keeps lib i (Ready lib i x) (sendOnce r x) fun _ => Mine lib i x.attempt := by
  apply RelyTriple.atomic stable_ready
  · exact fun _ => stable_mine
  · intro s hs
    have hmine : Mine lib i x.attempt s := mine_of_ready hs
    exact ⟨guar_send hs, hmine⟩

/-- Every way a save ends leaves the attempt to the run. -/
theorem keeps_defaultSave {client : Client} {listing : Listing} :
    Keeps lib i (Ready lib i x) (defaultSave r client listing x l) fun p s =>
      p.1.attempt = l.attempt ∧ Mine lib i x.attempt s := by
  have refused : ∀ p : Locals × Except PreSend Bool, p.1.attempt = l.attempt →
      Keeps lib i (Ready lib i x) (pure p) fun p s =>
        p.1.attempt = l.attempt ∧ Mine lib i x.attempt s :=
    fun _ hp => RelyTriple.pure stable_ready fun _ hs => ⟨hp, mine_of_ready hs⟩
  rw [defaultSave]
  split
  · exact refused _ rfl
  split
  · exact refused _ rfl
  split
  · exact refused _ rfl
  · exact refused _ rfl
  split
  · exact refused _ rfl
  split
  · exact refused _ rfl
  · exact refused _ rfl
  · apply RelyTriple.bind keeps_sendOnce
    intro saved
    exact RelyTriple.pure stable_mine fun _ hs => ⟨rfl, hs⟩

theorem afterSend_attempt (previous : Int) (saved : Except PreSend Bool) :
    (afterSend lib r l previous saved).locals.attempt = l.attempt := by
  rcases saved with (_ | _) | (_ | _)
  · rfl
  · rfl
  · rfl
  · rw [afterSend]
    split
    · rfl
    · rfl

/-- How a run goes on with an attempt it holds. -/
theorem keeps_sendAndVerify {client : Client} {fresh : Listing} {previous : Int} {a : Attempt}
    (ha : l.attempt = some a) :
    Keeps lib i (Ready lib i ⟨fresh.integrationAccount, offerId fresh, previous, a.pk⟩)
      (sendAndVerify lib r client fresh previous a l) fun e => EndsMine lib i e.locals := by
  have ends : ∀ (l' : Locals) saved s, l'.attempt = some a → Mine lib i a.pk s →
      EndsMine lib i (afterSend lib r l' previous saved).locals s := by
    intro l' saved s hl' hs b hb
    rw [afterSend_attempt, hl'] at hb
    cases hb
    exact hs
  rw [sendAndVerify]
  split
  · exact RelyTriple.pure stable_ready fun s hs => ends l _ s ha (mine_of_ready hs)
  dsimp only
  split
  · apply RelyTriple.bind keeps_sendOnce
    intro saved
    exact RelyTriple.pure stable_mine fun s hs => ends _ saved s ha hs
  · apply RelyTriple.bind keeps_defaultSave
    rintro ⟨l', saved⟩
    refine RelyTriple.pure ?_ fun s hs => ends l' saved s (hs.1.trans ha) hs.2
    exact fun s s' hs hR => ⟨hs.1, stable_mine s s' hs.2 hR⟩

/-- An end without an attempt. -/
theorem keeps_ended {P : Ledger → Prop} (hP : Stable (Others (Guar lib) i) P) {e : Ending}
    (h : e.locals.attempt = none) :
    Keeps lib i P (pure e) fun e => EndsMine lib i e.locals :=
  RelyTriple.pure hP fun _ _ => endsMine_of_none h

theorem keeps_underLease {client : Client} {admitted : Bool} :
    Keeps lib i (Valid lib) (underLease lib i r client admitted)
      fun e => EndsMine lib i e.locals := by
  rw [underLease.eq_def]
  dsimp only
  split
  · exact keeps_ended stable_valid rfl
  · exact keeps_ended stable_valid rfl
  split
  · exact keeps_ended stable_valid rfl
  · exact keeps_ended stable_valid rfl
  split
  · exact keeps_ended stable_valid rfl
  split
  · exact keeps_ended stable_valid rfl
  split
  · exact keeps_ended stable_valid rfl
  split
  · exact keeps_ended stable_valid rfl
  split
  · exact keeps_ended stable_valid rfl
  apply RelyTriple.bind (keeps_claim _ _)
  rintro (e | (a | d))
  · exact keeps_ended (Stable.all fun _ => Stable.imp fun _ => stable_ready) rfl
  · exact (keeps_sendAndVerify rfl).conseq (fun s hs => hs a rfl) fun _ _ h => h
  · exact keeps_ended (Stable.all fun _ => Stable.imp fun _ => stable_ready) rfl

theorem keeps_guarded :
    Keeps lib i (Valid lib) (guarded lib i r) fun e => EndsMine lib i e.locals := by
  rw [guarded]
  split
  · exact keeps_ended stable_valid rfl
  split
  · exact keeps_ended stable_valid rfl
  apply RelyTriple.bind (RelyTriple.read Guar.refl stable_valid)
  intro held
  split
  · exact keeps_ended stable_valid rfl
  split
  · exact keeps_ended stable_valid rfl
  split
  · exact keeps_ended stable_valid rfl
  split
  · exact keeps_ended stable_valid rfl
  split
  · exact keeps_ended stable_valid rfl
  apply RelyTriple.bind keeps_underLease
  intro e
  -- the exit of the lease changes how the stage ends, not what it holds
  split
  · exact RelyTriple.pure stable_endsMine fun _ h => h
  · exact RelyTriple.pure stable_endsMine fun _ h => h

/-- **`_finalize` rewrites the run's own row, and only while it is pending.** -/
theorem keeps_finalize (a : Attempt) (d : RenewalDecision) :
    Keeps lib i (Mine lib i a.pk) (finalize r a d) fun _ _ => True := by
  rw [finalize]
  split
  · exact RelyTriple.pure stable_mine fun _ _ => trivial
  next w _ =>
  apply RelyTriple.atomic stable_mine
  · exact fun _ => stable_true
  rintro s ⟨c, hc, hrun, -⟩
  refine ⟨?_, trivial⟩
  rw [show s.checks.get? a.pk = some c from hc]
  dsimp only
  split
  · next hmatch =>
    obtain ⟨-, -, -, -, hpending⟩ := hmatch
    rcases r.finalizeCommit.settle_cases (finalDecision w r.listing d) s
      (s.save a.pk (finalDecision w r.listing d)) with heq | ⟨-, heq⟩
    · rw [heq]
      exact guar_save hc hrun hpending _
    · rw [heq]
      exact Guar.refl s
  · exact Guar.refl s

/-- An observation takes no key. -/
theorem keeps_record (d : RenewalDecision) :
    Keeps lib i (fun _ => True) (record i r d) fun _ _ => True := by
  apply RelyTriple.atomic stable_true
  · exact fun _ => stable_true
  intro s _
  refine ⟨?_, trivial⟩
  split
  · exact Guar.refl s
  · next s' hnew =>
    rcases r.recordCommit.settle_cases () s s' with heq | ⟨-, heq⟩
    · rw [heq]
      exact guar_create hnew fun h => by cases h
    · rw [heq]
      exact Guar.refl s

theorem keeps_conclude (d : RenewalDecision) :
    Keeps lib i (EndsMine lib i l) (conclude i r l d) fun _ _ => True := by
  have ended : ∀ d : RenewalDecision,
      Keeps lib i (fun _ => True) (pure d) fun _ _ => True :=
    fun d => RelyTriple.pure stable_true fun _ _ => trivial
  rw [conclude]
  dsimp only
  split
  · exact RelyTriple.pure stable_endsMine fun _ _ => trivial
  split
  · next a ha =>
    refine RelyTriple.conseq (RelyTriple.bind (keeps_finalize a _) ?_) (fun s hs => hs a ha)
      fun _ _ h => h
    intro answer
    split
    · exact ended _
    · exact ended _
  · refine RelyTriple.conseq (RelyTriple.bind (keeps_record _) ?_) (fun _ _ => trivial)
      fun _ _ h => h
    intro answer
    split
    · exact ended _
    split
    · split
      · exact ended _
      · exact ended _
    · exact ended _

/-- **A whole run keeps to its guarantee**, from any valid ledger and against any other runs. -/
theorem keeps_renewEldoradoListing (r : Run) :
    Keeps lib i (Valid lib) (renewEldoradoListing lib i r) fun _ _ => True := by
  have ended : ∀ d : RenewalDecision,
      Keeps lib i (Valid lib) (pure d) fun _ _ => True :=
    fun d => RelyTriple.pure stable_valid fun _ _ => trivial
  rw [renewEldoradoListing]
  split
  · exact ended _
  split
  · exact ended _
  split
  · exact ended _
  split
  · exact ended _
  apply RelyTriple.bind keeps_guarded
  rintro (d | ⟨l, d⟩ | ⟨l, e⟩)
  · exact RelyTriple.pure stable_endsMine fun _ _ => trivial
  · exact keeps_conclude d
  · exact keeps_conclude _

/-! ### Every schedule -/

/-- Any number of runs, and the ledger before the first of them. -/
def start (lib : Library) (runs : List Run) : System Ledger RenewalDecision :=
  ⟨.empty, runs.mapIdx (renewEldoradoListing lib)⟩

theorem allSafe_start (runs : List Run) : AllSafe (Guar lib) (start lib runs) := by
  intro i p hp
  rw [start, List.getElem?_mapIdx] at hp
  obtain ⟨r, -, rfl⟩ := Option.map_eq_some_iff.mp hp
  exact keeps_renewEldoradoListing r _ valid_empty

/-- No other attempt for the account and offer of `x` is unresolved. -/
def NoneUnresolved (s : Ledger) (x : Send) : Prop :=
  ∀ k c, s.checks.get? k = some c → c.cycleKey.isSome →
    c.integrationAccount = x.integrationAccount → c.offerId = x.offerId → k ≠ x.attempt →
      c.outcome.unresolved = false

/-- The step makes no call, or one for an offer without another unresolved attempt. -/
def SendsFenced (s s' : Ledger) : Prop :=
  s'.sends = s.sends ∨ ∃ x, s'.sends = s.sends ++ [x] ∧ NoneUnresolved s x

/-- **The unresolved key fences the offer.** -/
theorem noneUnresolved_of_ready (h : Valid lib s) (hready : Ready lib i x s) :
    NoneUnresolved s x := by
  obtain ⟨⟨c, hc, -, held⟩, -⟩ := hready
  intro k d hd hcycle haccount hoffer hne
  by_contra hout
  rw [Bool.not_eq_false] at hout
  have hkey := h.fenced k d hd hcycle hout
  rw [haccount, hoffer] at hkey
  exact hne (s.unresolvedUnique k x.attempt d c _ hd hc hkey held.unresolvedKey)

/-- The account, the offer and the exact expiry of a call. -/
def Send.cycle (x : Send) : Option Nat × String × Int :=
  (x.integrationAccount, x.offerId, x.previous)

/-- **The cycle key fences the cycle.** -/
theorem Valid.cycles_nodup (h : Valid lib s) : (s.sends.map Send.cycle).Nodup := by
  refine h.once.nodup fun x y c d hc hd hcycle hcycle' heq => ?_
  rw [Send.cycle, Send.cycle, Prod.mk.injEq, Prod.mk.injEq] at heq
  obtain ⟨haccount, hoffer, hprevious⟩ := heq
  have hcycle' : d.cycleKey =
      some (renewalCycleKey lib y.integrationAccount y.offerId y.previous) := hcycle'
  rw [← haccount, ← hoffer, ← hprevious] at hcycle'
  exact s.cycleUnique _ _ c d _ hc hd hcycle hcycle'

/-- **An Eldorado renewal is sent at most once.**  However many runs there are, on whatever
listings, and however they are scheduled: no call is made while another attempt for
the account and offer is pending, unknown or unproven, and no two calls are made for one
account, offer and exact expiry. -/
theorem renewal_sent_at_most_once (lib : Library) (runs : List Run) (schedule : List Nat) :
    Along System.step (fun S i => SendsFenced S.store (S.step i).store) (start lib runs) schedule ∧
      Always System.step (fun S => (S.store.sends.map Send.cycle).Nodup) (start lib runs)
        schedule := by
  have hkeep : ∀ i s s', Valid lib s → Guar lib i s s' → Valid lib s' :=
    fun i s s' h hguar => hguar.valid h
  constructor
  · refine along_guar (allSafe_start runs) valid_empty hkeep ?_ schedule
    intro S i hS hstep
    rcases hstep with hguar | heq
    · rcases hguar.respects.acts with hnone | ⟨x, hx, hready⟩
      · exact Or.inl hnone
      · exact Or.inr ⟨x, hx, noneUnresolved_of_ready hS hready⟩
    · rw [heq]
      exact Or.inl rfl
  · exact (always_store (allSafe_start runs) valid_empty hkeep schedule).mono
      fun S h => h.cycles_nodup

/-! ### Two runs that meet -/

/-- Local tables that let the listing `7` be renewed. -/
def openWorld : World :=
  { renewalFlag := .ok (some { isEnabled := true, providers := some [some "eldorado"] })
    listings := [⟨7, some 1, some "abc", .listed, none⟩]
    stores := [{ pk := 1, provider := .eldorado }]
    credentials := [{ account := 1 }] }

/-- A run that meets nothing in its way. -/
def openRun : Run :=
  { listing := ⟨7, some 1, some "abc", .listed, none⟩, now := 5, cutoff := 20
    entry := openWorld, world := fun _ => .ok openWorld
    first := .ok { ok := true, live := ⟨"ABC", "Active", some "10"⟩ }
    after := .ok { ok := true, live := ⟨"ABC", "Active", some "30"⟩ } }

def plainLibrary : Library :=
  { fromIsoFormat := fun s => if s = "10" then some 10 else some 30
    isoFormat := fun _ => "10", sha256 := id }

-- both look for attempts before either has one, and the second insertion is refused
example :
    (run System.step (start plainLibrary [openRun, openRun])
      [0, 1, 0, 1, 0, 1, 0, 1, 0, 1, 0]).store.sends = [⟨some 1, "abc", 10, 0⟩] := by
  decide +kernel

end Sda.Eldorado
