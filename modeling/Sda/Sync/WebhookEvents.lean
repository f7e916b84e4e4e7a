/-
Sda/Sync/WebhookEvents.lean

The life of an accepted webhook event (sync/services/gameboost/webhooks.py,
sync/services/u7buy/webhooks.py).

The two modules keep their events in two tables and move them by the same code: a
worker claims the oldest PENDING event, marks it COMPLETED when it is done, and an
exception makes it PENDING again, or FAILED after the last attempt.  What a worker
does in between is in the other files; here it may end, raise or vanish at any
moment, and any number of workers are under way.

`processed` is a history variable: the claims made.

* `webhook_events_finish` — an event is processed three times at most; and a run lets
  every lease end and keeps every COMPLETED event exactly when its steps keep to
  `WebhookFits`;
* `webhook_events_fail` — a worker that dies in the last attempt, and one that raises
  when its event was completed by another.
-/
import Sda.Sync.OrderWindows

namespace Sda.Sync

/-! ### The queues -/

inductive WebhookProvider
  | gameboost | u7buy
  deriving DecidableEq, Repr

/-- A worker that has claimed an event; `finished` once it has marked it COMPLETED. -/
structure WebhookWorker where
  provider : WebhookProvider
  event : Nat
  finished : Bool := false
  deriving DecidableEq, Repr

structure WebhookQueues where
  now : Nat := 0
  events : WebhookProvider → Table WebhookEvent := fun _ => .empty
  workers : Table WebhookWorker := .empty
  /-- The events that were claimed, once for each time. -/
  processed : List (WebhookProvider × Nat) := []

/-- **`_claim_next_event`**, when the rows `locked` are locked by others. -/
def claimUnlockedEvent (locked : List Nat) (now : Nat) (webhooks : Table WebhookEvent) :
    Option (Nat × WebhookEvent) × Table WebhookEvent :=
  let webhooks := requeueStale now webhooks
  match ((webhooks.select fun k e => e.status == .pending && !locked.contains k).insertionSort
      receivedOrder).head? with
  | none => (none, webhooks)
  | some (k, e) =>
    let e := { e with status := .processing, attempts := e.attempts + 1, updatedAt := now }
    (some (k, e), webhooks.set k e)

theorem claimUnlockedEvent_nil (now : Nat) (webhooks : Table WebhookEvent) :
    claimUnlockedEvent [] now webhooks = claimNextEvent now webhooks := by
  simp only [claimUnlockedEvent, List.contains_nil, Bool.not_false, Bool.and_true]
  rfl

inductive WebhookAction
  | wait (seconds : Nat)
  /-- A signed event is accepted. -/
  | accept (provider : WebhookProvider) (account : Nat)
  /-- A worker calls `_claim_next_event`, and starts on what it gets. -/
  | claim (provider : WebhookProvider) (locked : List Nat)
  /-- `_finish_event(event.pk, status=COMPLETED)`. -/
  | complete (worker : Nat)
  /-- An exception, and its handler. -/
  | raises (worker : Nat)
  /-- The worker has returned, or its process is gone. -/
  | leave (worker : Nat)
  deriving DecidableEq, Repr

namespace WebhookQueues

/-- The events of one provider are rewritten. -/
def setEvents (s : WebhookQueues) (provider : WebhookProvider) (t : Table WebhookEvent) :
    WebhookQueues :=
  { s with events := Function.update s.events provider t }

@[simp] theorem events_setEvents (s : WebhookQueues) (p q : WebhookProvider)
    (t : Table WebhookEvent) :
    (s.setEvents p t).events q = if q = p then t else s.events q := by
  simp [setEvents, Function.update_apply]

@[simp] theorem processed_setEvents (s : WebhookQueues) (p : WebhookProvider)
    (t : Table WebhookEvent) : (s.setEvents p t).processed = s.processed := rfl

/-- The worker is gone. -/
def drop (s : WebhookQueues) (worker : Nat) : WebhookQueues :=
  { s with workers := s.workers.deleteWhere fun k _ => k == worker }

@[simp] theorem events_drop (s : WebhookQueues) (worker : Nat) :
    (s.drop worker).events = s.events := rfl

@[simp] theorem processed_drop (s : WebhookQueues) (worker : Nat) :
    (s.drop worker).processed = s.processed := rfl

/-- A worker asks for the next event. -/
def claim (s : WebhookQueues) (provider : WebhookProvider) (locked : List Nat) : WebhookQueues :=
  match claimUnlockedEvent locked s.now (s.events provider) with
  | (none, t) => s.setEvents provider t
  | (some (k, _), t) =>
    { s.setEvents provider t with
      workers := s.workers.create { provider, event := k }
      processed := (provider, k) :: s.processed }

/-- A worker marks its event COMPLETED. -/
def complete (s : WebhookQueues) (worker : Nat) (w : WebhookWorker) : WebhookQueues :=
  { s.setEvents w.provider (finishEvent s.now (s.events w.provider) w.event .completed) with
    workers := s.workers.set worker { w with finished := true } }

/-- A worker is left by an exception. -/
def raises (s : WebhookQueues) (worker : Nat) (w : WebhookWorker) : WebhookQueues :=
  (s.setEvents w.provider (retryEvent s.now (s.events w.provider) w.event)).drop worker

end WebhookQueues

def webhookStep (s : WebhookQueues) : WebhookAction → WebhookQueues
  | .wait seconds => { s with now := s.now + seconds }
  | .accept provider account =>
    s.setEvents provider ((s.events provider).create
      { integrationAccount := account, receivedAt := s.now, updatedAt := s.now })
  | .claim provider locked => s.claim provider locked
  | .complete worker =>
    match s.workers.get? worker with
    | some w => if w.finished then s else s.complete worker w
    | none => s
  | .raises worker =>
    match s.workers.get? worker with
    | some w => s.raises worker w
    | none => s
  | .leave worker => s.drop worker

/-! ### The properties -/

/-- The event has been in PROCESSING for longer than its lease. -/
def WebhookEvent.leaseExpired (now : Nat) (e : WebhookEvent) : Bool :=
  e.status == .processing && decide (e.updatedAt + processingLease < now)

/-- A claim leaves no event of its provider in an expired lease: it is PENDING again, if it is
not claimed at once, or FAILED. -/
def LeasesEnd (s : WebhookQueues) (a : WebhookAction) : Prop :=
  ∀ provider locked, a = .claim provider locked →
    ∀ k e, (s.events provider).get? k = some e → e.leaseExpired s.now = true →
      ∃ e', ((webhookStep s a).events provider).get? k = some e' ∧
        (e'.status = .pending ∨ e'.status = .processing ∧ e'.attempts = e.attempts + 1 ∨
          e'.status = .failed)

/-- COMPLETED is not left. -/
def CompletedStays (s : WebhookQueues) (a : WebhookAction) : Prop :=
  ∀ provider k e, (s.events provider).get? k = some e → e.status = .completed →
    ∃ e', ((webhookStep s a).events provider).get? k = some e' ∧ e'.status = .completed

/-- No claim meets an expired lease of a last attempt, and no exception a COMPLETED event. -/
def WebhookFits (s : WebhookQueues) : WebhookAction → Prop
  | .claim provider _ => ∀ k e, (s.events provider).get? k = some e →
      e.leaseExpired s.now = true → e.attempts < maxWebhookProcessAttempts
  | .raises worker => ∀ w e, s.workers.get? worker = some w →
      (s.events w.provider).get? w.event = some e → e.status ≠ .completed
  | _ => True

/-! ### What a claim does -/

variable {s : WebhookQueues} {t : Table WebhookEvent} {now k : Nat} {locked : List Nat}
  {e e' : WebhookEvent} {p q : WebhookProvider}

/-- The event is queued for another attempt. -/
def WebhookEvent.requeued (now : Nat) (e : WebhookEvent) : WebhookEvent :=
  if e.leaseExpired now && decide (e.attempts < maxWebhookProcessAttempts) then
    { e with status := .pending, updatedAt := now }
  else e

theorem get?_requeueStale : (requeueStale now t).get? k = (t.get? k).map fun e =>
    e.requeued now := by
  rw [requeueStale, Table.get?_updateWhere]
  rfl

/-- A row that is claimed. -/
def WebhookEvent.claimed (now : Nat) (e : WebhookEvent) : WebhookEvent :=
  { e with status := .processing, attempts := e.attempts + 1, updatedAt := now }

/-- **A claim** requeues what is stale, and takes one PENDING event or none. -/
theorem claimUnlockedEvent_cases (locked : List Nat) (now : Nat) (t : Table WebhookEvent) :
    claimUnlockedEvent locked now t = (none, requeueStale now t) ∨
      ∃ k e, (requeueStale now t).get? k = some e ∧ e.status = .pending ∧
        claimUnlockedEvent locked now t =
          (some (k, e.claimed now), (requeueStale now t).set k (e.claimed now)) := by
  simp only [claimUnlockedEvent]
  split
  · exact Or.inl rfl
  · next k e hhead =>
    have hin := List.mem_of_mem_head? (Option.mem_def.mpr hhead)
    have hsel := (List.perm_insertionSort receivedOrder _).mem_iff.mp hin
    obtain ⟨hget, hpending⟩ := Table.mem_select.mp hsel
    rw [Bool.and_eq_true, beq_iff_eq] at hpending
    exact Or.inr ⟨k, e, hget, hpending.1, rfl⟩

/-- What a claim makes of one row. -/
theorem get?_claim (locked : List Nat) (he : (s.events p).get? k = some e) :
    ((s.claim p locked).events p).get? k = some (e.requeued s.now) ∨
      (e.requeued s.now).status = .pending ∧
        ((s.claim p locked).events p).get? k = some ((e.requeued s.now).claimed s.now) := by
  have hrow : (requeueStale s.now (s.events p)).get? k = some (e.requeued s.now) := by
    rw [get?_requeueStale, he, Option.map_some]
  rw [WebhookQueues.claim]
  rcases claimUnlockedEvent_cases locked s.now (s.events p) with
    heq | ⟨j, c, hc, hpending, heq⟩
  · rw [heq]
    left
    simpa using hrow
  · rw [heq]
    by_cases hk : k = j
    · subst hk
      rw [hrow] at hc
      cases hc
      right
      simp [hpending, Table.get?_set_self hrow]
    · left
      simp [Table.get?_set_ne hk, hrow]

/-- A claim leaves the events of the other provider. -/
theorem events_claim_ne (hq : q ≠ p) : (s.claim p locked).events q = s.events q := by
  rw [WebhookQueues.claim]
  split
  · simp [hq]
  · simp [hq]

/-! ### At most three attempts -/

/-- The row of an event that was claimed `n` times. -/
def RowOk (n : Nat) : Option WebhookEvent → Prop
  | none => n = 0
  | some e => n = e.attempts ∧ e.attempts ≤ maxWebhookProcessAttempts ∧
      (e.status = .pending → e.attempts < maxWebhookProcessAttempts)

/-- Every event was claimed as often as it says. -/
def Counted (s : WebhookQueues) : Prop :=
  ∀ p k, RowOk (s.processed.count (p, k)) ((s.events p).get? k)

theorem RowOk.map {n : Nat} {r : Option WebhookEvent} {f : WebhookEvent → WebhookEvent}
    (h : RowOk n r) (hattempts : ∀ e, (f e).attempts = e.attempts)
    (hpending : ∀ e, (f e).status = .pending →
      e.status = .pending ∨ e.attempts < maxWebhookProcessAttempts) : RowOk n (r.map f) := by
  cases r with
  | none => exact h
  | some e =>
    obtain ⟨hn, hle, hlt⟩ := h
    refine ⟨?_, ?_, fun hp => ?_⟩
    · rw [hattempts]
      exact hn
    · rw [hattempts]
      exact hle
    · rw [hattempts]
      exact (hpending e hp).elim hlt id

/-- An update that claims nothing. -/
theorem counted_update {p : WebhookProvider} {m : Nat → WebhookEvent → Bool}
    {f : WebhookEvent → WebhookEvent} (h : Counted s)
    (hattempts : ∀ e, (f e).attempts = e.attempts)
    (hpending : ∀ e, (f e).status = .pending → e.attempts < maxWebhookProcessAttempts) :
    Counted (s.setEvents p ((s.events p).updateWhere m f)) := by
  intro q k
  rw [WebhookQueues.processed_setEvents, WebhookQueues.events_setEvents]
  split
  · next hq =>
    subst hq
    rw [Table.get?_updateWhere]
    apply (h q k).map
    · intro e
      split
      · exact hattempts e
      · rfl
    · intro e hp
      split at hp
      · exact Or.inr (hpending e hp)
      · exact Or.inl hp
  · exact h q k

theorem requeued_attempts (now : Nat) (e : WebhookEvent) :
    (e.requeued now).attempts = e.attempts := by
  rw [WebhookEvent.requeued]
  split <;> rfl

theorem requeued_pending (h : (e.requeued now).status = .pending) :
    e.status = .pending ∨ e.attempts < maxWebhookProcessAttempts := by
  rw [WebhookEvent.requeued] at h
  split at h
  · next hstale =>
    rw [Bool.and_eq_true, decide_eq_true_eq] at hstale
    exact Or.inr hstale.2
  · exact Or.inl h

theorem counted_claim (h : Counted s) (locked : List Nat) : Counted (s.claim p locked) := by
  have hrow : ∀ q k, RowOk (s.processed.count (q, k))
      (((s.setEvents p (requeueStale s.now (s.events p))).events q).get? k) := by
    intro q k
    rw [WebhookQueues.events_setEvents]
    split
    · next hq =>
      subst hq
      rw [get?_requeueStale]
      exact (h q k).map (requeued_attempts s.now) fun e => requeued_pending
    · exact h q k
  rw [WebhookQueues.claim]
  rcases claimUnlockedEvent_cases locked s.now (s.events p) with
    heq | ⟨j, c, hc, hpending, heq⟩
  · rw [heq]
    exact hrow
  · rw [heq]
    intro q k
    have hqk := hrow q k
    show RowOk (((p, j) :: s.processed).count (q, k))
      (((s.setEvents p ((requeueStale s.now (s.events p)).set j (c.claimed s.now))).events q).get? k)
    rw [WebhookQueues.events_setEvents] at hqk ⊢
    by_cases hsame : q = p ∧ k = j
    · -- the event that is claimed
      obtain ⟨rfl, rfl⟩ := hsame
      rw [if_pos rfl, hc] at hqk
      obtain ⟨hn, -, hlt⟩ := hqk
      rw [if_pos rfl, Table.get?_set_self hc, List.count_cons_self, hn]
      refine ⟨rfl, hlt hpending, fun hp => ?_⟩
      cases hp
    · have hne : (p, j) ≠ (q, k) := by
        intro heq
        cases heq
        exact hsame ⟨rfl, rfl⟩
      rw [List.count_cons_of_ne hne]
      split at hqk
      · next hq =>
        rw [if_pos hq, Table.get?_set_ne fun hk => hsame ⟨hq, hk⟩]
        exact hqk
      · next hq =>
        rw [if_neg hq]
        exact hqk

theorem counted_accept (h : Counted s) (account : Nat) :
    Counted (webhookStep s (.accept p account)) := by
  intro q k
  have hqk := h q k
  show RowOk (s.processed.count (q, k)) (((s.setEvents p _).events q).get? k)
  rw [WebhookQueues.events_setEvents]
  split
  · next hq =>
    subst hq
    rw [Table.get?_create]
    split
    · next hk =>
      rw [hk, Table.get?_nextKey] at hqk
      have hzero : s.processed.count (q, (s.events q).nextKey) = 0 := hqk
      rw [hk, hzero]
      exact ⟨rfl, Nat.zero_le _, fun _ => Nat.zero_lt_succ _⟩
    · exact hqk
  · exact hqk

theorem counted_step (h : Counted s) (a : WebhookAction) : Counted (webhookStep s a) := by
  cases a with
  | wait seconds => exact h
  | accept provider account => exact counted_accept h account
  | claim provider locked => exact counted_claim h locked
  | complete worker =>
    rw [webhookStep]
    split
    · split
      · exact h
      · exact counted_update h (fun _ => rfl) fun _ hp => by cases hp
    · exact h
  | raises worker =>
    rw [webhookStep]
    split
    · refine counted_update h (fun _ => rfl) fun e hp => ?_
      by_contra hge
      rw [if_neg hge] at hp
      cases hp
    · exact h
  | leave worker => exact h

theorem RowOk.le {n : Nat} {r : Option WebhookEvent} (h : RowOk n r) :
    n ≤ maxWebhookProcessAttempts := by
  cases r with
  | none =>
    have hn : n = 0 := h
    rw [hn]
    exact Nat.zero_le _
  | some e =>
    rw [h.1]
    exact h.2.1

/-! ### The condition is exact -/

/-- An expired lease ends at a claim unless it is of the last attempt. -/
theorem leasesEnd_iff {locked : List Nat} :
    LeasesEnd s (.claim p locked) ↔ WebhookFits s (.claim p locked) := by
  constructor
  · intro h k e he hexpired
    obtain ⟨e', he', hends⟩ := h p locked rfl k e he hexpired
    by_contra hlast
    have hsame : e.requeued s.now = e := by
      rw [WebhookEvent.requeued, hexpired, decide_eq_false hlast]
      rfl
    have hprocessing : e.status = .processing := by
      rw [WebhookEvent.leaseExpired, Bool.and_eq_true, beq_iff_eq] at hexpired
      exact hexpired.1
    rcases get?_claim locked he with hkept | ⟨hpending, -⟩
    · -- the row is as it was, in PROCESSING
      rw [hsame] at hkept
      have he' : ((s.claim p locked).events p).get? k = some e' := he'
      rw [hkept] at he'
      cases he'
      rcases hends with hends | ⟨-, hends⟩ | hends
      · rw [hprocessing] at hends
        cases hends
      · omega
      · rw [hprocessing] at hends
        cases hends
    · rw [hsame, hprocessing] at hpending
      cases hpending
  · rintro h provider locked' heq k e he hexpired
    cases heq
    have hpending : e.requeued s.now = { e with status := .pending, updatedAt := s.now } := by
      rw [WebhookEvent.requeued, hexpired, decide_eq_true (h k e he hexpired)]
      rfl
    rcases get?_claim locked he with hkept | ⟨-, hclaimed⟩
    · refine ⟨_, hkept, Or.inl ?_⟩
      rw [hpending]
    · refine ⟨_, hclaimed, Or.inr (Or.inl ⟨rfl, ?_⟩)⟩
      rw [hpending]
      rfl

theorem completedStays_claim {locked : List Nat} : CompletedStays s (.claim p locked) := by
  intro q k e he hcompleted
  by_cases hq : q = p
  · subst hq
    have hsame : e.requeued s.now = e := by
      rw [WebhookEvent.requeued, WebhookEvent.leaseExpired, hcompleted]
      rfl
    rcases get?_claim locked he with hkept | ⟨hpending, -⟩
    · rw [hsame] at hkept
      exact ⟨e, hkept, hcompleted⟩
    · rw [hsame, hcompleted] at hpending
      cases hpending
  · exact ⟨e, (congrArg (fun t => t.get? k) (events_claim_ne hq)).trans he, hcompleted⟩

/-- What an update of one event makes of another step's COMPLETED row. -/
theorem completedStays_update {a : WebhookAction} {event : Nat} {f : WebhookEvent → WebhookEvent}
    (hstep : (webhookStep s a).events =
      (s.setEvents p ((s.events p).updateWhere (fun k _ => k == event) f)).events) :
    CompletedStays s a ↔ ∀ e, (s.events p).get? event = some e → e.status = .completed →
      (f e).status = .completed := by
  have hrow : ∀ q k, ((webhookStep s a).events q).get? k =
      ((s.events q).get? k).map fun e => if q = p ∧ k = event then f e else e := by
    intro q k
    rw [hstep, WebhookQueues.events_setEvents]
    by_cases hq : q = p
    · subst hq
      rw [if_pos rfl, Table.get?_updateWhere]
      simp
    · simp [hq]
  constructor
  · intro h e he hcompleted
    obtain ⟨e', he', hstays⟩ := h p event e he hcompleted
    rw [hrow, he, Option.map_some, if_pos ⟨rfl, rfl⟩] at he'
    cases he'
    exact hstays
  · intro h q k e he hcompleted
    refine ⟨_, (hrow q k).trans (congrArg (Option.map _) he), ?_⟩
    dsimp only
    split
    · next hsame =>
      obtain ⟨rfl, rfl⟩ := hsame
      exact h e he hcompleted
    · exact hcompleted

theorem completedStays_of_events {a : WebhookAction}
    (hstep : (webhookStep s a).events = s.events) : CompletedStays s a := by
  intro q k e he hcompleted
  rw [hstep]
  exact ⟨e, he, hcompleted⟩

/-- The handler of an exception does not look at the status of its event. -/
theorem completedStays_raises {worker : Nat} :
    CompletedStays s (.raises worker) ↔ WebhookFits s (.raises worker) := by
  rcases hw : s.workers.get? worker with - | w
  · have hstep : webhookStep s (.raises worker) = s := by
      rw [webhookStep, hw]
    refine iff_of_true (completedStays_of_events (congrArg _ hstep)) fun w e h => ?_
    rw [hw] at h
    cases h
  · have hstep : webhookStep s (.raises worker) = s.raises worker w := by
      rw [webhookStep, hw]
    have hevents : (webhookStep s (.raises worker)).events =
        (s.setEvents w.provider (retryEvent s.now (s.events w.provider) w.event)).events := by
      rw [hstep]
      rfl
    rw [completedStays_update hevents]
    constructor
    · intro h w' e hw' he hcompleted
      rw [hw] at hw'
      cases hw'
      have hstays := h e he hcompleted
      dsimp only at hstays
      split at hstays
      · cases hstays
      · cases hstays
    · exact fun h e he hcompleted => absurd hcompleted (h w e hw he)

theorem finishes_iff (s : WebhookQueues) (a : WebhookAction) :
    LeasesEnd s a ∧ CompletedStays s a ↔ WebhookFits s a := by
  have noClaim : (∀ provider locked, a ≠ .claim provider locked) → LeasesEnd s a :=
    fun h provider locked heq => absurd heq (h provider locked)
  cases a with
  | wait seconds =>
    exact iff_of_true ⟨noClaim nofun, completedStays_of_events rfl⟩ trivial
  | accept provider account =>
    refine iff_of_true ⟨noClaim nofun, fun q k e he hcompleted => ⟨e, ?_, hcompleted⟩⟩ trivial
    show ((s.setEvents provider _).events q).get? k = some e
    rw [WebhookQueues.events_setEvents]
    split
    · next hq =>
      subst hq
      exact Table.get?_create_of_some he
    · exact he
  | claim provider locked =>
    rw [leasesEnd_iff]
    exact and_iff_left completedStays_claim
  | complete worker =>
    refine iff_of_true ⟨noClaim nofun, ?_⟩ trivial
    rcases hw : s.workers.get? worker with - | w
    · apply completedStays_of_events
      rw [webhookStep, hw]
    · by_cases hdone : w.finished = true
      · apply completedStays_of_events
        rw [webhookStep, hw]
        simp [hdone]
      · have hevents : (webhookStep s (.complete worker)).events =
            (s.setEvents w.provider
              (finishEvent s.now (s.events w.provider) w.event .completed)).events := by
          rw [webhookStep, hw]
          simp only [hdone]
          rfl
        exact (completedStays_update hevents).mpr fun e _ _ => rfl
  | raises worker =>
    rw [← completedStays_raises]
    exact and_iff_right (noClaim nofun)
  | leave worker =>
    exact iff_of_true ⟨noClaim nofun, completedStays_of_events rfl⟩ trivial

/-! ### Runs -/

theorem counted_start : Counted {} := fun _ _ => rfl

/-- **The life of an accepted event.**  It is processed three times at most.  And a run lets
every expired lease end at the next claim, and leaves no COMPLETED event, exactly when no
claim of it meets an expired lease of a last attempt, and no exception an event that is
COMPLETED. -/
theorem webhook_events_finish (es : List WebhookAction) :
    Always webhookStep (fun s => ∀ p k, s.processed.count (p, k) ≤ maxWebhookProcessAttempts)
        {} es ∧
      (Along webhookStep (fun s a => LeasesEnd s a ∧ CompletedStays s a) {} es ↔
        Along webhookStep WebhookFits {} es) := by
  constructor
  · exact (always_of_step (I := Counted) (fun s a h => counted_step h a) counted_start es).mono
      fun s h p k => (h p k).le
  · exact along_iff_along (I := fun _ => True) (fun _ _ _ _ => trivial)
      (fun s a _ => finishes_iff s a) trivial es

/-- Three workers of one event die, one after another; then a claim finds its lease expired. -/
def dyingWorkers (provider : WebhookProvider) : List WebhookAction :=
  [.accept provider 1, .claim provider [], .leave 0, .wait 901, .claim provider [], .leave 0,
    .wait 901, .claim provider [], .leave 0, .wait 901, .claim provider []]

/-- The first worker of an event raises after the second has completed it. -/
def lateException (provider : WebhookProvider) : List WebhookAction :=
  [.accept provider 1, .claim provider [], .wait 901, .claim provider [], .complete 1, .leave 1,
    .raises 0]

theorem lease_not_ended (provider : WebhookProvider) :
    ¬ Along webhookStep LeasesEnd {} (dyingWorkers provider) := by
  intro h
  have hfits := leasesEnd_iff.mp h.2.2.2.2.2.2.2.2.2.2.1
  have hlast := hfits 0 ⟨1, .processing, 3, 0, 1802⟩ (by cases provider <;> decide +kernel)
    (by cases provider <;> decide +kernel)
  exact absurd hlast (by decide)

theorem completed_left (provider : WebhookProvider) :
    ¬ Along webhookStep CompletedStays {} (lateException provider) := by
  intro h
  have hfits := completedStays_raises.mp h.2.2.2.2.2.2.1
  exact hfits ⟨provider, 0, false⟩ ⟨1, .completed, 2, 0, 901⟩
    (by cases provider <;> decide +kernel) (by cases provider <;> decide +kernel) rfl

/-- An event whose worker dies in the last attempt stays in PROCESSING, and an exception after
the lease makes a COMPLETED event PENDING again; in both tables. -/
theorem webhook_events_fail :
    (¬ Along webhookStep LeasesEnd {} (dyingWorkers .gameboost) ∧
      ¬ Along webhookStep CompletedStays {} (lateException .gameboost)) ∧
    ¬ Along webhookStep LeasesEnd {} (dyingWorkers .u7buy) ∧
      ¬ Along webhookStep CompletedStays {} (lateException .u7buy) :=
  ⟨⟨lease_not_ended _, completed_left _⟩, lease_not_ended _, completed_left _⟩

end Sda.Sync
