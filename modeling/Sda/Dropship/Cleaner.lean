/-
Sda/Dropship/Cleaner.lean

The loop of a cleaner thread (cleaner_loop in services/dropship/cleaner.py).

Only what the loop itself reads is here: how the check of a product ends, and the time between
two checks.  What a check removes is in Sda/Dropship/Removal.lean.

* `Cleaner.respects` — after a cooldown is due the thread checks nothing before it is over.
-/
import Sda.Dropship.Backoff
import Sda.Lib.Run

namespace Sda.Dropship

/-! ### The loop -/

/-- What a cycle reads: the interval after it, and the listed products, oldest check first. -/
structure CleanerCycle where
  interval : Nat
  products : List Nat
  deriving DecidableEq, Repr

/-- What the check of a product meets. -/
inductive Check
  /-- The product is gone from the database. -/
  | missing
  /-- The source call failed; the result is kept, or not. -/
  | failed (maintenance : Bool) (e : ErrorDetail) (status : Option Nat)
  | unreadable
  /-- The source answered; what follows talks to the marketplaces and is not counted. -/
  | answered
  | raises
  deriving DecidableEq, Repr

inductive CleanerPhase
  /-- At the head of the `while`. -/
  | cycle
  /-- At the head of the loop over the products. -/
  | products (interval : Nat) (todo : List Nat)
  | ended
  deriving DecidableEq, Repr

structure Cleaner extends Pace where
  upcoming : List CleanerCycle
  phase : CleanerPhase := .cycle
  deriving DecidableEq, Repr

inductive CleanerAction
  | go
  | check (c : Check)
  | stop
  | elapse (t : Nat)

/-- `DEFAULT_CHECK_DELAY`. -/
def defaultCheckDelay : Nat := seconds 1

/-- `MAINTENANCE_WAIT`. -/
def maintenanceWait : Nat := seconds 120

namespace Cleaner

/-- The thread waits, and goes on there. -/
def goOn (s : Cleaner) (timeout : Nat) (phase : CleanerPhase) : Cleaner :=
  { s with toPace := s.toPace.wait timeout, phase }

/-- The end of the body of the loop over the products. -/
def nextProduct (s : Cleaner) (interval : Nat) (todo : List Nat) : Cleaner :=
  s.goOn defaultCheckDelay (.products interval todo)

/-- An error is recorded.  A `TemporaryPauseRequired` is slept out, a new tracker begins, and the
rest of the cycle is left. -/
def handle (s : Cleaner) (interval : Nat) (todo : List Nat) (h : ErrorTracker × Handled) :
    Cleaner :=
  let s := { s with toPace := s.toPace.record h.1 }
  match h.2 with
  | .waits delay => { s with toPace := s.toPace.wait delay }.nextProduct interval todo
  | .pause _ => { s with phase := .ended }
  | .temporaryPause _ wait => { s.goOn wait (.products interval []) with tracker := {} }

/-- **`_check_single_product`**, and the handlers around it. -/
def check (s : Cleaner) (interval : Nat) (todo : List Nat) : Check → Cleaner
  | .missing => { s with phase := .products interval todo }
  | .unreadable | .raises => s.nextProduct interval todo
  | .answered =>
    { s with toPace := s.toPace.record s.tracker.onSuccess }.nextProduct interval todo
  | .failed maintenance e status =>
    match classifyApiError maintenance (.failure e status : ApiResult Unit) with
    | .maintenance => s.goOn maintenanceWait (.products interval [])
    | .rateLimit => s.handle interval todo (s.tracker.onRateLimit none)
    | .server => s.handle interval todo s.tracker.onServerError
    -- the item is gone, or the error is only logged
    | .notFound | .auth | .success | .validation | .unknown => s.nextProduct interval todo

/-- **`cleaner_loop`**, statement by statement. -/
def step (s : Cleaner) : CleanerAction → Cleaner
  | .stop => { s with stopped := true }
  | .elapse t => { s with clock := s.clock + t }
  | .go =>
    match s.phase with
    | .cycle =>
      match s.upcoming with
      | [] => { s with phase := .ended }
      | c :: rest =>
        if s.stopped then { s with phase := .ended }
        else { s with upcoming := rest, phase := .products c.interval c.products }
    | .products interval todo =>
      if todo = [] ∨ s.stopped then s.goOn interval .cycle else s
    | .ended => s
  | .check c =>
    match s.phase with
    | .products interval (_ :: todo) => if s.stopped then s else s.check interval todo c
    | _ => s

/-! ### The cooldown is slept out -/

variable {s : Cleaner} {interval : Nat} {todo : List Nat}

/-- A check of a product that is still there asks the source. -/
def Sends (s : Cleaner) : CleanerAction → Prop
  | .check c => c ≠ .missing ∧ ∃ interval i todo, s.phase = .products interval (i :: todo)
  | _ => False

/-- No request is sent while a cooldown is due. -/
def Respects (s : Cleaner) (a : CleanerAction) : Prop :=
  s.stopped = false → s.Sends a → s.Slack serverCooldown

/-- A thread that goes on has slept. -/
def Rested (s : Cleaner) : Prop := s.phase = .ended ∨ s.Slack serverCooldown

theorem rested_goOn (h : s.Slack serverCooldown) (hstop : s.stopped = false) (timeout : Nat)
    (phase : CleanerPhase) : (s.goOn timeout phase).Rested := by
  apply Or.inr
  apply (h.wait hstop timeout).mono
  omega

theorem rested_handle (hslack : s.Slack serverCooldown) (hstop : s.stopped = false)
    {h : ErrorTracker × Handled} (hcools : h.2.Cools ↔ h.1.Due)
    (hlong : ∀ reason wait, h.2 = .temporaryPause reason wait → serverCooldown ≤ wait) :
    (s.handle interval todo h).Rested := by
  unfold handle
  dsimp only
  split
  · next delay hwaits =>
    have hquiet : ¬ h.1.Due := by
      rw [← hcools, hwaits]
      exact not_cools_waits delay
    apply Or.inr
    have hwaited := (hslack.quiet hquiet).wait (p := s.toPace.record h.1) hstop delay
    apply (hwaited.wait hstop defaultCheckDelay).mono
    omega
  · exact Or.inl rfl
  · next reason wait hpause =>
    -- the whole wait lies between the record and whatever follows
    apply Or.inr
    have hnow : (s.toPace.record h.1).Slack 0 := (hslack.mono (Nat.zero_le _)).record
    apply (hnow.wait (p := s.toPace.record h.1) hstop wait).mono
    have := hlong reason wait hpause
    omega

theorem rested_check (hslack : s.Slack serverCooldown) (hstop : s.stopped = false) (c : Check) :
    (s.check interval todo c).Rested := by
  cases c with
  | missing => exact Or.inr hslack
  | unreadable => exact rested_goOn hslack hstop _ _
  | raises => exact rested_goOn hslack hstop _ _
  | answered =>
    apply Or.inr
    apply ((hslack.quiet (not_due_of_zero rfl rfl)).wait hstop defaultCheckDelay).mono
    omega
  | failed maintenance e status =>
    rw [check]
    split
    · exact rested_goOn hslack hstop _ _
    · exact rested_handle hslack hstop (cools_onRateLimit none) (long_onRateLimit none)
    · exact rested_handle hslack hstop cools_onServerError long_onServerError
    · exact rested_goOn hslack hstop _ _
    · exact rested_goOn hslack hstop _ _
    · exact rested_goOn hslack hstop _ _
    · exact rested_goOn hslack hstop _ _
    · exact rested_goOn hslack hstop _ _

/-- What every state of a cleaner satisfies. -/
def Inv (s : Cleaner) : Prop := s.stopped = true ∨ s.Rested

/-- **Every step** keeps it. -/
theorem inv_step (a : CleanerAction) (h : s.Inv) : (s.step a).Inv := by
  cases a with
  | stop => exact Or.inl rfl
  | elapse t =>
    refine h.imp_right fun hrested => hrested.imp_right fun hslack now hnow => ?_
    have := hslack now hnow
    show now + serverCooldown ≤ s.clock + t
    omega
  | go =>
    show Inv (match s.phase with | .cycle => _ | .products interval todo => _ | .ended => _)
    split
    · split
      · exact h.imp_right fun _ => Or.inl rfl
      · next hupcoming =>
        split
        · exact h.imp_right fun _ => Or.inl rfl
        · next hphase _ _ _ _ =>
          refine h.imp_right fun hrested => Or.inr (hrested.resolve_left ?_)
          rw [hphase]
          exact nofun
    · next hphase =>
      split
      · by_cases hstop : s.stopped = true
        · exact Or.inl hstop
        rw [Bool.not_eq_true] at hstop
        have hrested : s.Rested := h.resolve_left (by rw [hstop]; exact nofun)
        exact Or.inr (rested_goOn (hrested.resolve_left (by rw [hphase]; exact nofun)) hstop _ _)
      · exact h
    · exact h
  | check c =>
    show Inv (match s.phase with | .products interval (_ :: todo) => _ | _ => _)
    split
    · next hphase =>
      split
      · exact h
      · next hstop =>
        rw [Bool.not_eq_true] at hstop
        have hrested : s.Rested := h.resolve_left (by rw [hstop]; exact nofun)
        exact Or.inr (rested_check (hrested.resolve_left (by rw [hphase]; exact nofun)) hstop c)
    · exact h

theorem respects_of_inv (h : s.Inv) (a : CleanerAction) : s.Respects a := by
  intro hstop hsends
  have hrested : s.Rested := h.resolve_left (by rw [hstop]; exact nofun)
  cases a with
  | check c =>
    obtain ⟨-, interval, i, todo, hphase⟩ := hsends
    exact hrested.resolve_left (by rw [hphase]; exact nofun)
  | go => exact hsends.elim
  | stop => exact hsends.elim
  | elapse t => exact hsends.elim

/-- **A cleaner respects the cooldown**, whatever it is answered. -/
theorem respects (cycles : List CleanerCycle) (actions : List CleanerAction) :
    Along step Respects { upcoming := cycles } actions := by
  refine along_of_along (C := fun _ _ => True) (fun s a h _ => inv_step a h)
    (fun s a h _ => respects_of_inv h a) ?_ (along_of_forall (fun _ _ => trivial) _ _)
  exact Or.inr (Or.inr fun _ => nofun)

end Cleaner

end Sda.Dropship
