/-
Sda/Sdk/HttpWrites.lean

The requests of the governed writes (libs/apis_sdk/apis_sdk/clients/marketplaces/eldorado/
governor.py: `governed_write` of `GovernedEldoradoFacade`).

A call takes its slot from the governor, runs the method of the facade, and records the
result.  The facade may send several requests for the one slot.  A step is a reading of the
hold, a turn of `acquire_write`, an attempt of the facade, or the record; the state of the
stores is `Governed`, and what a wire step does to it is a step of the governor
(`governed_wireStep`).

`sent` has the requests, the last first, each with the pause of its store as it stood.

* `http_writes_spaced` — where no answer makes the facade send again, every request goes out
  equally long after its slot, and no 429 is recorded in that time, the requests of a store
  are an interval apart and in no open pause;
* `retries_unspaced` — an update answered 503 and a create answered 401.
-/
import Sda.Sdk.Retry

namespace Sda.HttpWrites

open Governor Retry

/-- `OFFER_MUTATION_METHODS` -/
def needsLease : Mutation → Bool
  | .updateOffer => true
  | .updateOfferOnce => true
  | .deleteOffer => true
  | _ => false

/-- `OFFER_LEASE_RETRY_SECONDS` -/
def offerLeaseRetrySeconds : ℚ := 1

/-- **`_refused`** -/
def refused (reason : String) (retryAfter : ℚ) (store : String) : WriteReply where
  ok := false
  error := some
    { category := .rateLimit
      message := "ELDORADO_GOVERNOR_" ++ reason.toUpper ++ ": " ++ store ++ " paused for " ++
        toString ⌊retryAfter⌋ ++ "s (no request sent)"
      retryAfter := some retryAfter
      governor := reason }

/-- Where a call is. -/
inductive CallPhase
  /-- At the first reading of the hold, or at the lease. -/
  | entering
  /-- In `acquire_write`. -/
  | acquiring
  /-- Admitted; the hold is read once more. -/
  | admitted
  /-- About to make an attempt, asleep until `notBefore`. -/
  | trying (attempt : Nat) (notBefore : ℚ)
  | answered (reply : WriteReply)
  | returned (reply : WriteReply)
  deriving DecidableEq

/-- A call of `governed_write`; `slot` is a history variable, the time of its admission. -/
structure MutationCall where
  method : Mutation
  store : String
  phase : CallPhase := .entering
  slot : Option ℚ := none
  deriving DecidableEq

/-- A request, and until when its store was paused when it went out. -/
structure Sent where
  call : Nat
  store : String
  time : ℚ
  pausedUntil : ℚ
  deriving DecidableEq

structure Wire where
  governed : Governed := {}
  /-- The calls, under the keys of their callers of `acquire_write`. -/
  calls : Nat → Option MutationCall := fun _ => none
  sent : List Sent := []

/-- A step of a call. -/
inductive CallAction
  /-- `held` and `heldAfter` are two readings of the hold, `leased` what the lease came to. -/
  | enter (held leased heldAfter : Bool)
  | turn (held heldInside : Bool)
  | proceed (held : Bool)
  | attempt (trial : Trial)
  | record

inductive WireAction
  | clock (time : ℚ)
  | call (method : Mutation) (store : String) (maxWriteWait : ℚ)
  | on (call : Nat) (action : CallAction)

/-! ### Steps -/

def Wire.setCall (s : Wire) (c : Nat) (call : MutationCall) : Wire :=
  { s with calls := Function.update s.calls c (some call) }

/-- The hold, and the lease where the method needs one. -/
def enterPhase (call : MutationCall) (held leased heldAfter : Bool) : CallPhase :=
  if held then .returned (refused "writes_held" writesHeldRetrySeconds call.store)
  else if needsLease call.method && !leased then
    if heldAfter then .returned (refused "writes_held" writesHeldRetrySeconds call.store)
    else .returned (refused "offer_mutation_busy" offerLeaseRetrySeconds call.store)
  else .acquiring

/-- What the answer of `acquire_write`, if there is one yet, means for the call. -/
def turnCall (call : MutationCall) (now : ℚ) : Option (Bool × String × ℚ) → MutationCall
  | none => call
  | some (true, _, _) => { call with phase := .admitted, slot := some now }
  | some (false, reason, retryAfter) =>
    { call with phase := .returned (refused reason retryAfter call.store) }

def Wire.turn (interval : ℚ) (s : Wire) (c : Nat) (call : MutationCall)
    (held heldInside : Bool) : Wire :=
  let governed := governorStep interval s.governed (.turn c held heldInside)
  let answer := (governed.callers.get? c).bind WriteCaller.answer
  { s with governed := governed }.setCall c (turnCall call governed.now answer)

def proceedPhase (call : MutationCall) (now : ℚ) (held : Bool) : CallPhase :=
  if held then .returned (refused "writes_held" writesHeldRetrySeconds call.store)
  else .trying 1 now

/-- The next attempt, or the result. -/
def attemptPhase (attempt : Nat) (now : ℚ) : AttemptEnd → CallPhase
  | .retries delay => .trying (attempt + 1) (now + delay)
  | .returns reply => .answered reply

/-- **An attempt**; a request goes out unless the attempt fails before. -/
def Wire.attempt (s : Wire) (c : Nat) (call : MutationCall) (attempt : Nat) (trial : Trial) :
    Wire :=
  let s' := s.setCall c { call with
    phase := attemptPhase attempt s.governed.now (facade call.method attempt trial) }
  match trial.outcome with
  | .unsent _ => s'
  | .sent _ =>
    { s' with
      sent :=
        { call := c
          store := call.store
          time := s.governed.now
          pausedUntil := (s.governed.stores call.store).writeCooldownUntil } :: s.sent }

def Wire.record (interval : ℚ) (s : Wire) (c : Nat) (call : MutationCall) (reply : WriteReply) :
    Wire :=
  { s with governed := governorStep interval s.governed (.record call.store reply) }.setCall c
    { call with phase := .returned reply }

/-- **`governed_write`**, a step at a time; a call takes only the step it is at. -/
def callStep (interval : ℚ) (s : Wire) (c : Nat) (call : MutationCall) (a : CallAction) : Wire :=
  match call.phase, a with
  | .entering, .enter held leased heldAfter =>
    s.setCall c { call with phase := enterPhase call held leased heldAfter }
  | .acquiring, .turn held heldInside => s.turn interval c call held heldInside
  | .admitted, .proceed held =>
    s.setCall c { call with phase := proceedPhase call s.governed.now held }
  | .trying attempt notBefore, .attempt trial =>
    -- `time.sleep` has not returned
    if s.governed.now < notBefore then s else s.attempt c call attempt trial
  | .answered reply, .record => s.record interval c call reply
  | _, _ => s

def wireStep (interval : ℚ) (s : Wire) : WireAction → Wire
  | .clock time => { s with governed := governorStep interval s.governed (.clock time) }
  | .call method store maxWriteWait =>
    { s with governed := governorStep interval s.governed (.call store maxWriteWait) }.setCall
      s.governed.callers.nextKey { method, store }
  | .on c a =>
    match s.calls c with
    | some call => callStep interval s c call a
    | none => s

/-! ### The property and its condition -/

/-- Two requests of a store are an interval apart. -/
def SentApart (interval : ℚ) (new old : Sent) : Prop :=
  new.store = old.store → old.time + interval ≤ new.time

/-- The requests are an interval apart, and none went out in an open pause. -/
def HttpSpaced (interval : ℚ) (s : Wire) : Prop :=
  s.sent.Pairwise (SentApart interval) ∧ ∀ r ∈ s.sent, r.pausedUntil ≤ r.time

instance (interval : ℚ) (s : Wire) : Decidable (HttpSpaced interval s) := by
  unfold HttpSpaced SentApart
  infer_instance

/-- Has the call its slot, and no request yet? -/
def CallPhase.waiting : CallPhase → Bool
  | .admitted => true
  | .trying _ _ => true
  | _ => false

/-- A request goes out `lag` after the slot of its call, and the facade does not send it
again; a 429 is not recorded while another call of its store has its slot and no request
yet. -/
def Orderly (lag : ℚ) (s : Wire) : WireAction → Prop
  | .on c (.attempt trial) =>
    ∀ call attempt notBefore answer, s.calls c = some call →
      call.phase = .trying attempt notBefore → notBefore ≤ s.governed.now →
      trial.outcome = .sent answer →
        call.slot = some (s.governed.now - lag) ∧
          replayed call.method attempt trial answer = false
  | .on c .record =>
    ∀ call reply, s.calls c = some call → call.phase = .answered reply →
      Governor.isRateLimited reply = true →
        ∀ c' call', s.calls c' = some call' → call'.store = call.store →
          call'.phase.waiting = false
  | _ => True

/-! ### The governor's part -/

variable {interval lag : ℚ} {s : Wire} {g g' : Governed} {c : Nat} {call : MutationCall}

/-- **A turn** changes its caller alone, and no pause; if it admits, it does so outside of the
pauses, at the next slot. -/
theorem governed_turn {w : WriteCaller} (hw : g.callers.get? c = some w)
    (hopen : w.answer = none) (held heldInside : Bool) (hg' : g' = governorStep interval g
      (.turn c held heldInside)) :
    g'.now = g.now ∧ g.history ⊆ g'.history ∧
      (∀ store, (g'.stores store).writeCooldownUntil = (g.stores store).writeCooldownUntil) ∧
      ∃ w', g'.callers = g.callers.set c w' ∧ w'.store = w.store ∧
        ∀ reason retryAfter, w'.answer = some (true, reason, retryAfter) →
          (g.stores w.store).writeCooldownUntil ≤ g.now ∧
            (g.stores w.store).nextWriteAt ≤ g.now ∧ .slot w.store g.now ∈ g'.history := by
  have hspec := acquireTurn_spec interval held heldInside g.now w.maxWait w.waited (g.stores w.store)
  simp only [governorStep, hw, hopen, Option.isSome_none, Bool.false_eq_true, if_false,
    Governed.turn] at hg'
  generalize acquireTurn interval held heldInside g.now w.maxWait w.waited (g.stores w.store) =
    result at hspec hg'
  have hcool : ∀ state : StoreState,
      state.writeCooldownUntil = (g.stores w.store).writeCooldownUntil → ∀ store,
        (Function.update g.stores w.store state store).writeCooldownUntil =
          (g.stores store).writeCooldownUntil :=
    fun state h => update_same StoreState.writeCooldownUntil h
  cases hspec with
  | admitted hcooldown hnext hsame =>
    subst hg'
    refine ⟨rfl, List.subset_cons_self _ _, hcool _ hsame.cooldown, _, rfl, rfl, ?_⟩
    exact fun _ _ _ => ⟨hcooldown, hnext, List.mem_cons_self⟩
  | refused hsame =>
    subst hg'
    exact ⟨rfl, List.Subset.refl _, hcool _ hsame.cooldown, _, rfl, rfl, by simp⟩
  | sleeps hwithin =>
    subst hg'
    exact ⟨rfl, List.Subset.refl _, hcool _ rfl, _, rfl, rfl, by simp⟩

/-- **A record** leaves the callers, and the pauses unless it is of a 429. -/
theorem governed_record (store : String) (reply : WriteReply)
    (hg' : g' = governorStep interval g (.record store reply)) :
    g'.callers = g.callers ∧ g.history ⊆ g'.history ∧
      ∀ other, (Governor.isRateLimited reply = true → other ≠ store) →
        (g'.stores other).writeCooldownUntil = (g.stores other).writeCooldownUntil := by
  subst hg'
  refine ⟨rfl, ?_, fun other hother => ?_⟩
  · simp only [governorStep, Governed.record]
    split
    · exact List.subset_cons_self _ _
    · split
      · exact List.subset_cons_self _ _
      · exact List.Subset.refl _
  · simp only [governorStep, Governed.record]
    by_cases hlimited : Governor.isRateLimited reply = true
    · rw [Function.update_of_ne (hother hlimited)]
    · apply update_same StoreState.writeCooldownUntil
      rw [recordWriteResult, if_neg hlimited]
      split <;> rfl

/-! ### The invariant -/

/-- The call has not left `acquire_write`. -/
def CallPhase.early : CallPhase → Bool
  | .entering => true
  | .acquiring => true
  | _ => false

/-- The call is done with the facade. -/
def CallPhase.past : CallPhase → Bool
  | .answered _ => true
  | .returned _ => true
  | _ => false

/-- A call and the governor agree. -/
structure CallOk (g : Governed) (c : Nat) (call : MutationCall) : Prop where
  caller : ∃ w, g.callers.get? c = some w ∧ w.store = call.store ∧
    (call.phase.early = true → w.answer = none)
  slot : ∀ a, call.slot = some a → .slot call.store a ∈ g.history
  calm : call.phase.waiting = true → ∀ a, call.slot = some a →
    (g.stores call.store).writeCooldownUntil ≤ a

theorem CallOk.mono (h : CallOk g c call) (hcaller : g'.callers.get? c = g.callers.get? c)
    (hhistory : g.history ⊆ g'.history)
    (hcool : call.phase.waiting = true → (g'.stores call.store).writeCooldownUntil =
      (g.stores call.store).writeCooldownUntil) : CallOk g' c call := by
  refine ⟨hcaller ▸ h.caller, fun a ha => hhistory (h.slot a ha), fun hwaiting a ha => ?_⟩
  rw [hcool hwaiting]
  exact h.calm hwaiting a ha

/-- One of the two slots is an interval after the other. -/
def OneFirst (interval a b : ℚ) : Prop :=
  a ≤ b ∧ a + interval ≤ b ∨ b ≤ a ∧ b + interval ≤ a

theorem OneFirst.symm {a b : ℚ} (h : OneFirst interval a b) : OneFirst interval b a := Or.symm h

structure Slotted (interval lag : ℚ) (s : Wire) : Prop where
  accounted : Accounted interval s.governed
  ok : ∀ c call, s.calls c = some call → CallOk s.governed c call
  apart : ∀ c d call call' a a', d ≠ c → s.calls c = some call → s.calls d = some call' →
    call'.store = call.store → call.slot = some a → call'.slot = some a' → OneFirst interval a a'
  sent : ∀ r ∈ s.sent, ∃ call, s.calls r.call = some call ∧ call.phase.past = true ∧
    call.store = r.store ∧ call.slot = some (r.time - lag)
  past : ∀ r ∈ s.sent, r.time ≤ s.governed.now
  spaced : HttpSpaced interval s

/-- The governor is replaced by one that the calls agree with. -/
theorem Slotted.govern (h : Slotted interval lag s) (hacc : Accounted interval g)
    (hnow : s.governed.now ≤ g.now)
    (hok : ∀ c call, s.calls c = some call → CallOk g c call) :
    Slotted interval lag { s with governed := g } :=
  ⟨hacc, hok, h.apart, h.sent, fun r hr => (h.past r hr).trans hnow, h.spaced⟩

theorem calls_setCall {call' x : MutationCall} {d : Nat} :
    (s.setCall c call').calls d = some x ↔
      d = c ∧ call' = x ∨ d ≠ c ∧ s.calls d = some x := by
  show Function.update s.calls c (some call') d = some x ↔ _
  by_cases hd : d = c <;> simp [hd]

/-- **A call goes on**, or starts, together with the governor. -/
theorem Slotted.setCall (h : Slotted interval lag s) {call' : MutationCall}
    (hacc : Accounted interval g) (hnow : s.governed.now ≤ g.now)
    (hothers : ∀ d call, d ≠ c → s.calls d = some call → CallOk g d call)
    (hown : CallOk g c call')
    (hapart : ∀ d call a a', d ≠ c → s.calls d = some call → call.store = call'.store →
      call.slot = some a → call'.slot = some a' → OneFirst interval a a')
    (hkept : ∀ call, s.calls c = some call → call.phase.past = true →
      call'.phase.past = true ∧ call'.store = call.store ∧ call'.slot = call.slot) :
    Slotted interval lag ({ s with governed := g }.setCall c call') := by
  refine ⟨hacc, ?_, ?_, ?_, fun r hr => (h.past r hr).trans hnow, h.spaced⟩
  · intro d x hx
    obtain ⟨rfl, rfl⟩ | ⟨hne, hx'⟩ := calls_setCall.mp hx
    · exact hown
    · exact hothers d x hne hx'
  · intro d e x y a b hne hx hy hstore ha hb
    obtain ⟨rfl, rfl⟩ | ⟨hd, hx'⟩ := calls_setCall.mp hx
    · obtain ⟨rfl, -⟩ | ⟨he, hy'⟩ := calls_setCall.mp hy
      · exact absurd rfl hne
      · exact (hapart e y b a he hy' hstore hb ha).symm
    · obtain ⟨rfl, rfl⟩ | ⟨he, hy'⟩ := calls_setCall.mp hy
      · exact hapart d x a b hd hx' hstore.symm ha hb
      · exact h.apart d e x y a b hne hx' hy' hstore ha hb
  · intro r hr
    obtain ⟨x, hx, hpast, hstore, hslot⟩ := h.sent r hr
    by_cases hd : r.call = c
    · rw [hd] at hx
      obtain ⟨hpast', hstore', hslot'⟩ := hkept x hx hpast
      exact ⟨call', calls_setCall.mpr (Or.inl ⟨hd, rfl⟩), hpast', hstore'.trans hstore,
        hslot'.trans hslot⟩
    · exact ⟨x, calls_setCall.mpr (Or.inr ⟨hd, hx⟩), hpast, hstore, hslot⟩

/-- A call moves on to another phase, its slot being what it was. -/
theorem Slotted.rephase (h : Slotted interval lag s) (hc : s.calls c = some call)
    {phase : CallPhase} (hacc : Accounted interval g) (hnow : s.governed.now ≤ g.now)
    (hok : ∀ d call, s.calls d = some call → CallOk g d call)
    (hearly : phase.early = true → call.phase.early = true)
    (hwaiting : phase.waiting = true → call.phase.waiting = true)
    (hpast : call.phase.past = true → phase.past = true) :
    Slotted interval lag ({ s with governed := g }.setCall c { call with phase := phase }) := by
  have hown := hok c call hc
  apply h.setCall hacc hnow (fun d call _ hd => hok d call hd)
  · obtain ⟨w, hw, hstore, hopen⟩ := hown.caller
    exact ⟨⟨w, hw, hstore, fun he => hopen (hearly he)⟩, hown.slot,
      fun hw => hown.calm (hwaiting hw)⟩
  · intro d x a a' hne hx hstore ha ha'
    exact (h.apart c d call x a' a hne hc hx hstore ha' ha).symm
  · intro x hx hp
    cases hc.symm.trans hx
    exact ⟨hpast hp, rfl, rfl⟩

/-- **A request goes out** for a call that has its slot. -/
theorem Slotted.send (h : Slotted interval lag s) (hc : s.calls c = some call)
    (hwaiting : call.phase.waiting = true) (hslot : call.slot = some (s.governed.now - lag))
    {reply : WriteReply} {r : Sent} (hcall : r.call = c) (hstore : r.store = call.store)
    (htime : r.time = s.governed.now)
    (hpaused : r.pausedUntil = (s.governed.stores call.store).writeCooldownUntil)
    {s' : Wire} (hs' : s' = s.setCall c { call with phase := .answered reply }) :
    Slotted interval lag { s' with sent := r :: s'.sent } := by
  have hnot : call.phase.past = true → False := by
    cases hphase : call.phase <;> simp_all [CallPhase.waiting, CallPhase.past]
  have hnext : Slotted interval lag s' := by
    rw [hs']
    exact h.rephase hc h.accounted (le_refl _) h.ok (by simp [CallPhase.early])
      (by simp [CallPhase.waiting]) (fun hp => (hnot hp).elim)
  have hown := h.ok c call hc
  have hin := hown.slot _ hslot
  have hpast := (h.accounted.slots call.store _ hin).2
  have hnow : s'.governed.now = s.governed.now := by rw [hs']; rfl
  refine ⟨hnext.accounted, hnext.ok, hnext.apart, ?_, ?_, ?_, ?_⟩
  · intro x hx
    rcases List.mem_cons.mp hx with rfl | hx
    · refine ⟨{ call with phase := .answered reply }, ?_, rfl, hstore.symm, ?_⟩
      · rw [hs']
        exact calls_setCall.mpr (Or.inl ⟨hcall, rfl⟩)
      · rw [htime]
        exact hslot
    · exact hnext.sent x hx
  · intro x hx
    rcases List.mem_cons.mp hx with rfl | hx
    · exact (htime.trans hnow.symm).le
    · exact hnext.past x hx
  · refine List.pairwise_cons.mpr ⟨fun old hold hsame => ?_, hnext.spaced.1⟩
    -- the older request is another call's, which has its own slot
    rw [hs'] at hold
    obtain ⟨other, hother, hotherPast, hotherStore, hotherSlot⟩ := h.sent old hold
    have hne : old.call ≠ c := by
      rintro rfl
      cases hc.symm.trans hother
      exact hnot hotherPast
    have hstores : other.store = call.store := hotherStore.trans (hsame.symm.trans hstore)
    have hbefore := h.past old hold
    rw [htime]
    rcases h.apart c old.call call other _ _ hne hc hother hstores hslot hotherSlot with
      ⟨-, hle⟩ | ⟨-, hle⟩
    · linarith
    · linarith
  · intro x hx
    rcases List.mem_cons.mp hx with rfl | hx
    · rw [hpaused, htime]
      exact (hown.calm hwaiting _ hslot).trans hpast
    · exact hnext.spaced.2 x hx

/-! ### Steps keep the invariant -/

theorem slotted_clock (h : Slotted interval lag s) (time : ℚ) :
    Slotted interval lag (wireStep interval s (.clock time)) :=
  h.govern (accounted_step _ (.clock time) h.accounted) (le_max_left _ _)
    fun c call hc => (h.ok c call hc).mono rfl (List.Subset.refl _) fun _ => rfl

theorem slotted_call (h : Slotted interval lag s) (method : Mutation) (store : String)
    (maxWriteWait : ℚ) :
    Slotted interval lag (wireStep interval s (.call method store maxWriteWait)) := by
  have hfresh : ∀ call, s.calls s.governed.callers.nextKey ≠ some call := by
    intro call hc
    obtain ⟨w, hw, -⟩ := (h.ok _ call hc).caller
    rw [Table.get?_nextKey] at hw
    cases hw
  apply h.setCall (accounted_step _ (.call store maxWriteWait) h.accounted) (le_refl _)
  · intro d call hne hd
    refine (h.ok d call hd).mono ?_ (List.Subset.refl _) fun _ => rfl
    obtain ⟨w, hw, -⟩ := (h.ok d call hd).caller
    rw [hw]
    exact Table.get?_create_of_some hw
  · refine ⟨⟨{ store, maxWait := maxWriteWait }, ?_, rfl, fun _ => rfl⟩, nofun, nofun⟩
    exact Table.get?_create.trans (if_pos rfl)
  · exact fun d call a a' _ _ _ _ => nofun
  · exact fun call hc => absurd hc (hfresh call)

theorem slotted_enter (h : Slotted interval lag s) (hc : s.calls c = some call)
    (hphase : call.phase = .entering) (held leased heldAfter : Bool) :
    Slotted interval lag
      (s.setCall c { call with phase := enterPhase call held leased heldAfter }) := by
  apply h.rephase hc h.accounted (le_refl _) h.ok
  · exact fun _ => by rw [hphase]; rfl
  · rw [enterPhase]
    split_ifs <;> exact nofun
  · rw [hphase]
    exact nofun

/-- A turn of the call that is in `acquire_write`. -/
theorem slotted_turn (h : Slotted interval lag s) (hc : s.calls c = some call)
    (hphase : call.phase = .acquiring) (held heldInside : Bool) :
    Slotted interval lag (s.turn interval c call held heldInside) := by
  obtain ⟨w, hw, hstore, hopen⟩ := (h.ok c call hc).caller
  have hopen : w.answer = none := hopen (by rw [hphase]; rfl)
  have hacc : Accounted interval _ := accounted_step _ (.turn c held heldInside) h.accounted
  rw [Wire.turn]
  generalize hg : governorStep interval s.governed (.turn c held heldInside) = g at hacc
  obtain ⟨hnow, hhistory, hcool, w', hcallers, hstore', hadmitted⟩ :=
    governed_turn hw hopen held heldInside hg.symm
  have hget : g.callers.get? c = some w' := by rw [hcallers, Table.get?_set_self hw]
  have hothers : ∀ d x, d ≠ c → s.calls d = some x → CallOk g d x := by
    intro d x hne hx
    refine (h.ok d x hx).mono ?_ hhistory fun _ => hcool _
    rw [hcallers, Table.get?_set_ne hne]
  have hslots : ∀ a, call.slot = some a → .slot call.store a ∈ g.history :=
    fun a ha => hhistory ((h.ok c call hc).slot a ha)
  have hkeptApart : ∀ d x a a', d ≠ c → s.calls d = some x → x.store = call.store →
      x.slot = some a → call.slot = some a' → OneFirst interval a a' :=
    fun d x a a' hne hx hxs ha ha' => (h.apart c d call x a' a hne hc hx hxs ha' ha).symm
  have hnotPast : ∀ (x y : MutationCall), s.calls c = some x → x.phase.past = true →
      y.phase.past = true ∧ y.store = x.store ∧ y.slot = x.slot := by
    intro x y hx hp
    cases hc.symm.trans hx
    rw [hphase] at hp
    cases hp
  rw [hget]
  simp only [Option.bind_some]
  rcases hanswer : w'.answer with - | ⟨admitted, reason, retryAfter⟩
  · -- asleep: the call stays where it is
    apply h.setCall hacc hnow.ge hothers
    · refine ⟨⟨w', hget, hstore'.trans hstore, fun _ => hanswer⟩, hslots, ?_⟩
      rw [turnCall, hphase]
      exact nofun
    · exact hkeptApart
    · exact fun x hx hp => hnotPast x _ hx hp
  · cases admitted with
    | false =>
      apply h.setCall hacc hnow.ge hothers
      · exact ⟨⟨w', hget, hstore'.trans hstore, nofun⟩, hslots, nofun⟩
      · exact hkeptApart
      · exact fun x hx hp => hnotPast x _ hx hp
    | true =>
      obtain ⟨hcooldown, hnext, hin⟩ := hadmitted reason retryAfter hanswer
      rw [hstore] at hcooldown hnext hin
      apply h.setCall hacc hnow.ge hothers
      · refine ⟨⟨w', hget, hstore'.trans hstore, nofun⟩, ?_, ?_⟩
        · rintro a ⟨⟩
          rw [hnow]
          exact hin
        · rintro - a ⟨⟩
          rw [hnow]
          exact (hcool call.store).trans_le hcooldown
      · -- the new slot is after every slot the store has given out
        rintro d x a a' hne hx hxs ha ⟨⟩
        have hslot := (h.ok d x hx).slot a ha
        rw [show x.store = call.store from hxs] at hslot
        obtain ⟨hle, hpast⟩ := h.accounted.slots _ _ hslot
        rw [hnow]
        exact Or.inl ⟨hpast, hle.trans hnext⟩
      · exact fun x hx hp => hnotPast x _ hx hp

theorem slotted_proceed (h : Slotted interval lag s) (hc : s.calls c = some call)
    (hphase : call.phase = .admitted) (held : Bool) :
    Slotted interval lag
      (s.setCall c { call with phase := proceedPhase call s.governed.now held }) := by
  apply h.rephase hc h.accounted (le_refl _) h.ok
  · rw [proceedPhase]
    split_ifs <;> exact nofun
  · exact fun _ => by rw [hphase]; rfl
  · rw [hphase]
    exact nofun

/-- An attempt of a call whose request is not sent again. -/
theorem slotted_attempt (h : Slotted interval lag s) (hc : s.calls c = some call)
    {attempt : Nat} {notBefore : ℚ} (hphase : call.phase = .trying attempt notBefore)
    {trial : Trial} (horderly : ∀ answer, trial.outcome = .sent answer →
      call.slot = some (s.governed.now - lag) ∧
        replayed call.method attempt trial answer = false) :
    Slotted interval lag (s.attempt c call attempt trial) := by
  have hwaiting : call.phase.waiting = true := by rw [hphase]; rfl
  rw [Wire.attempt]
  split
  · apply h.rephase hc h.accounted (le_refl _) h.ok
    · cases facade call.method attempt trial <;> exact nofun
    · exact fun _ => hwaiting
    · rw [hphase]
      exact nofun
  · next answer hsent =>
    obtain ⟨hslot, hreplayed⟩ := horderly answer hsent
    cases hend : facade call.method attempt trial with
    | retries delay =>
      have hagain := (facade_retries_iff hsent).mp ⟨delay, hend⟩
      rw [hreplayed] at hagain
      cases hagain
    | returns reply => exact h.send hc hwaiting hslot rfl rfl rfl rfl rfl

theorem slotted_record (h : Slotted interval lag s) (hc : s.calls c = some call)
    (reply : WriteReply)
    (horderly : Governor.isRateLimited reply = true → ∀ d x, s.calls d = some x →
      x.store = call.store → x.phase.waiting = false) :
    Slotted interval lag (s.record interval c call reply) := by
  have hacc : Accounted interval _ := accounted_step _ (.record call.store reply) h.accounted
  rw [Wire.record]
  generalize hg : governorStep interval s.governed (.record call.store reply) = g at hacc
  obtain ⟨hcallers, hhistory, hcool⟩ := governed_record call.store reply hg.symm
  have hnow : g.now = s.governed.now := by
    rw [← hg]
    rfl
  apply h.rephase hc hacc hnow.ge
  · intro d x hx
    refine (h.ok d x hx).mono (by rw [hcallers]) hhistory fun hwaiting => hcool _ ?_
    rintro hlimited hstore
    rw [horderly hlimited d x hx hstore] at hwaiting
    cases hwaiting
  · exact nofun
  · exact nofun
  · exact fun _ => rfl

theorem slotted_step (s : Wire) (a : WireAction) (h : Slotted interval lag s)
    (horderly : Orderly lag s a) : Slotted interval lag (wireStep interval s a) := by
  cases a with
  | clock time => exact slotted_clock h time
  | call method store maxWriteWait => exact slotted_call h method store maxWriteWait
  | on c a =>
    rw [wireStep]
    split
    · next call hc =>
      unfold callStep
      split
      · next hphase => exact slotted_enter h hc hphase _ _ _
      · next hphase => exact slotted_turn h hc hphase _ _
      · next hphase => exact slotted_proceed h hc hphase _
      · next attempt notBefore trial hphase =>
        split
        · exact h
        · next hawake =>
          exact slotted_attempt h hc hphase fun answer hsent =>
            horderly call _ _ answer hc hphase (not_lt.mp hawake) hsent
      · next reply hphase => exact slotted_record h hc reply (horderly call reply hc hphase)
      · exact h
    · exact h

/-! ### Runs -/

theorem slotted_start (now : ℚ) : Slotted interval lag { governed := { now } } where
  accounted := accounted_start now
  ok _ _ hc := by cases hc
  apart _ _ _ _ _ _ _ hc := by cases hc
  sent := by simp
  past := by simp
  spaced := ⟨List.Pairwise.nil, by simp⟩

/-- **A run of the wire is a run of the governor**: a step does nothing to the governor or is
one of its steps. -/
theorem governed_wireStep (s : Wire) (a : WireAction) :
    (wireStep interval s a).governed = s.governed ∨
      ∃ g, (wireStep interval s a).governed = governorStep interval s.governed g := by
  cases a with
  | clock time => exact Or.inr ⟨.clock time, rfl⟩
  | call method store maxWriteWait => exact Or.inr ⟨.call store maxWriteWait, rfl⟩
  | on c a =>
    rw [wireStep]
    split
    · next call hc =>
      unfold callStep
      split
      · exact Or.inl rfl
      · next held heldInside _ => exact Or.inr ⟨.turn c held heldInside, rfl⟩
      · exact Or.inl rfl
      · split
        · exact Or.inl rfl
        · rw [Wire.attempt]
          split <;> exact Or.inl rfl
      · next reply _ => exact Or.inr ⟨.record call.store reply, rfl⟩
      · exact Or.inl rfl
    · exact Or.inl rfl

/-- **The spacing of the requests.**  For every interleaving of calls: if every request goes
out equally long after its slot and is answered so that the facade does not send it again, and
no 429 is recorded between a slot of the store and its request, then the requests of a store
are an interval apart and none goes out in an open pause. -/
theorem http_writes_spaced (interval lag now : ℚ) (es : List WireAction)
    (h : Along (wireStep interval) (Orderly lag) { governed := { now } } es) :
    Always (wireStep interval) (HttpSpaced interval) { governed := { now } } es := by
  have hall : Always (wireStep interval) (Slotted interval lag) { governed := { now } } es :=
    always_of_along slotted_step (slotted_start now) h
  exact hall.mono fun s hs => hs.spaced

/-- A call runs, its attempts meeting the trials. -/
def mutation (c : Nat) (method : Mutation) (attempts : List WireAction) : List WireAction :=
  [.call method "ezsmurfmart" 130, .on c (.enter false true false), .on c (.turn false false),
    .on c (.proceed false)] ++ attempts ++ [.on c .record]

def trialOf (statusCode : Nat) : CallAction :=
  .attempt { outcome := .sent (.response statusCode {}) }

/-- Two updates, one as soon as the other allows it. -/
def promptUpdates : List WireAction :=
  mutation 0 .updateOffer [.on 0 (trialOf 200)] ++
    .clock 120 :: mutation 1 .updateOffer [.on 1 (trialOf 200)]

example : (run (wireStep 120) {} promptUpdates).sent.map Sent.time = [120, 0] := by
  decide +kernel

/-- One of these calls, after its slot. -/
def updating (slot : ℚ) (phase : CallPhase) : MutationCall :=
  { method := .updateOffer, store := "ezsmurfmart", phase, slot := some slot }

/-- The updates are spaced. -/
theorem http_writes_spaced_prompt :
    Always (wireStep 120) (HttpSpaced 120) { governed := { now := 0 } } promptUpdates := by
  have hfirst : (run (wireStep 120) {} (promptUpdates.take 4)).calls 0 =
      some (updating 0 (.trying 1 0)) := by decide +kernel
  have hanswered : (run (wireStep 120) {} (promptUpdates.take 5)).calls 0 =
      some (updating 0 (.answered { ok := true, statusCode := some 200 })) := by decide +kernel
  have hsecond : (run (wireStep 120) {} (promptUpdates.take 11)).calls 1 =
      some (updating 120 (.trying 1 120)) := by decide +kernel
  have hanswered' : (run (wireStep 120) {} (promptUpdates.take 12)).calls 1 =
      some (updating 120 (.answered { ok := true, statusCode := some 200 })) := by decide +kernel
  apply http_writes_spaced 120 0 0
  refine ⟨trivial, trivial, trivial, trivial, ?_, ?_, trivial, trivial, trivial, trivial,
    trivial, ?_, ?_, trivial⟩
  · rintro call attempt notBefore answer hc hphase - ⟨⟩
    cases hfirst.symm.trans hc
    cases hphase
    decide +kernel
  · rintro call reply hc hphase hlimited
    cases hanswered.symm.trans hc
    cases hphase
    cases hlimited
  · rintro call attempt notBefore answer hc hphase - ⟨⟩
    cases hsecond.symm.trans hc
    cases hphase
    decide +kernel
  · rintro call reply hc hphase hlimited
    cases hanswered'.symm.trans hc
    cases hphase
    cases hlimited

/-- An update answered 503 is sent again after a second. -/
def retriedUpdate : List WireAction :=
  mutation 0 .updateOffer [.on 0 (trialOf 503), .clock 1, .on 0 (trialOf 200)]

/-- A create answered 401 is sent again at once. -/
def replayedCreate : List WireAction :=
  mutation 0 .createOffer [.on 0 (trialOf 401), .on 0 (trialOf 200)]

/-- The facade sends requests that have no slot. -/
theorem retries_unspaced :
    ¬ Always (wireStep 120) (HttpSpaced 120) {} retriedUpdate ∧
      ¬ Always (wireStep 120) (HttpSpaced 120) {} replayedCreate := by
  decide +kernel

end Sda.HttpWrites
