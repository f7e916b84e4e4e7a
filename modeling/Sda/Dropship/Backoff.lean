/-
Sda/Dropship/Backoff.lean

The error tracker that every poster and cleaner thread owns
(services/dropship/backoff.py).

A handler either waits, or raises: `TemporaryPauseRequired` after too many rate limits or server
errors in a row, `PauseRequired` after too many validation errors within an hour.  The source
raises from inside the handler, with its counters already written; here a handler returns the
tracker beside what it comes to.

Times are microseconds, the precision of a `datetime`.  `Pace` is what the poster and the cleaner
have in common.
-/
import Sda.Sdk.Result
import Sda.Lib.Text

namespace Sda.Dropship

def seconds (n : Nat) : Nat := 1000000 * n

/-! ### Classification -/

/-- What `classify_api_error` returns. -/
inductive ErrorType
  | success | rateLimit | validation | server | auth | notFound | maintenance | unknown
  deriving DecidableEq, Repr

/-- `_MAP`. -/
def ErrorType.ofCategory : ErrorCategory → Option ErrorType
  | .rateLimit => some .rateLimit
  | .validation | .conflict => some .validation
  | .serverError | .network | .timeout => some .server
  | .authentication => some .auth
  | .notFound => some .notFound
  | .unknown => none

/-- The fallback: the raw status code. -/
def ErrorType.ofStatusCode : Option Nat → ErrorType
  | none => .unknown
  | some status =>
    if status = 429 then .rateLimit
    else if 400 ≤ status ∧ status < 500 then .validation
    else if 500 ≤ status then .server
    else .unknown

/-- **`classify_api_error`**; `maintenance` is that key of the details. -/
def classifyApiError {α : Type} (maintenance : Bool) : ApiResult α → ErrorType
  | .success _ _ => .success
  | .failure e status =>
    if maintenance then .maintenance
    else (ErrorType.ofCategory e.category).getD (.ofStatusCode (e.statusCode <|> status))

/-! ### The tracker -/

def maxConsecutive429 : Nat := 5

def maxServerRetries : Nat := 5

def maxErrorsInWindow : Nat := 3

def errorWindow : Nat := seconds 3600

def serverCooldown : Nat := seconds 3600

/-- **`_backoff_delay`** -/
def backoffDelay (attempt : Nat) : Nat := min (seconds 4 * 2 ^ (attempt - 1)) (seconds 64)

/-- **`ErrorTracker`** -/
structure ErrorTracker where
  consecutive429 : Nat := 0
  windowStart : Option Nat := none
  errorsInWindow : Nat := 0
  lastValidationError : String := ""
  consecutiveServerErrors : Nat := 0
  deriving DecidableEq, Repr

/-- What a handler of the tracker comes to. -/
inductive Handled
  | waits (delay : Nat)
  /-- `PauseRequired(reason)`. -/
  | pause (reason : String)
  /-- `TemporaryPauseRequired(reason, wait_seconds)`. -/
  | temporaryPause (reason : String) (wait : Nat)
  deriving DecidableEq, Repr

/-- **`on_success`** -/
def ErrorTracker.onSuccess (t : ErrorTracker) : ErrorTracker :=
  { t with consecutive429 := 0, consecutiveServerErrors := 0 }

/-- **`on_rate_limit`** -/
def ErrorTracker.onRateLimit (t : ErrorTracker) (retryAfter : Option Nat) :
    ErrorTracker × Handled :=
  let t := { t with consecutive429 := t.consecutive429 + 1, consecutiveServerErrors := 0 }
  (t, if maxConsecutive429 ≤ t.consecutive429 then
      .temporaryPause (natText maxConsecutive429 ++ "x consecutive rate limit (429)")
        serverCooldown
    else
      let delay := backoffDelay t.consecutive429
      match retryAfter with
      | some after => .waits (if delay < after then min after (seconds 64) else delay)
      | none => .waits delay)

/-- The reason of a permanent pause. -/
def floodReason (lastError : String) : String :=
  natText maxErrorsInWindow ++ "x validation errors in 1 hour (400)" ++
    if lastError = "" then "" else " | last: " ++ takeChars 300 lastError

/-- The window has passed, or none was opened. -/
def ErrorTracker.windowOver (t : ErrorTracker) (now : Nat) : Bool :=
  match t.windowStart with
  | none => true
  | some start => decide (errorWindow < now - start)

/-- **`on_validation_error`** at this time. -/
def ErrorTracker.onValidationError (t : ErrorTracker) (now : Nat) (lastError : String) :
    ErrorTracker × Handled :=
  let opened : ErrorTracker :=
    if t.windowOver now then { t with windowStart := some now, errorsInWindow := 0 } else t
  let t := { opened with
    consecutive429 := 0
    consecutiveServerErrors := 0
    errorsInWindow := opened.errorsInWindow + 1
    lastValidationError := if lastError = "" then opened.lastValidationError else lastError }
  (t, if maxErrorsInWindow ≤ t.errorsInWindow then .pause (floodReason t.lastValidationError)
    else .waits 0)

/-- **`on_server_error`** -/
def ErrorTracker.onServerError (t : ErrorTracker) : ErrorTracker × Handled :=
  let t := { t with
    consecutiveServerErrors := t.consecutiveServerErrors + 1
    consecutive429 := 0 }
  (t, if maxServerRetries ≤ t.consecutiveServerErrors then
      .temporaryPause (natText maxServerRetries ++ "x consecutive server errors (5xx)")
        serverCooldown
    else .waits (backoffDelay t.consecutiveServerErrors))

/-- So many rate limits or server errors in a row have been recorded that a cooldown is due. -/
def ErrorTracker.Due (t : ErrorTracker) : Prop :=
  maxConsecutive429 ≤ t.consecutive429 ∨ maxServerRetries ≤ t.consecutiveServerErrors

instance (t : ErrorTracker) : Decidable t.Due :=
  inferInstanceAs (Decidable (_ ∨ _))

/-! ### When a handler raises -/

/-- The tracker asks for a cooldown. -/
def Handled.Cools (h : Handled) : Prop := ∃ reason, h = .temporaryPause reason serverCooldown

variable {t : ErrorTracker}

theorem not_cools_waits (delay : Nat) : ¬ (Handled.waits delay).Cools := by
  rintro ⟨_, h⟩
  cases h

theorem not_cools_pause (reason : String) : ¬ (Handled.pause reason).Cools := by
  rintro ⟨_, h⟩
  cases h

theorem not_cools_ite {p : Prop} [Decidable p] {a b : Handled} (ha : ¬ a.Cools)
    (hb : ¬ b.Cools) : ¬ (if p then a else b).Cools := by
  split
  · exact ha
  · exact hb

/-- With both counters at zero nothing is due. -/
theorem not_due_of_zero (h : t.consecutive429 = 0) (h' : t.consecutiveServerErrors = 0) :
    ¬ t.Due := by
  rw [ErrorTracker.Due, h, h']
  decide

/-- A rate limit asks for a cooldown exactly when one is due. -/
theorem cools_onRateLimit (retryAfter : Option Nat) :
    (t.onRateLimit retryAfter).2.Cools ↔ (t.onRateLimit retryAfter).1.Due := by
  show Handled.Cools (if maxConsecutive429 ≤ t.consecutive429 + 1 then _ else _) ↔
    (maxConsecutive429 ≤ t.consecutive429 + 1 ∨ maxServerRetries ≤ 0)
  rw [or_iff_left (by decide)]
  split
  · next hmany => exact iff_of_true ⟨_, rfl⟩ hmany
  · next hfew =>
    apply iff_of_false _ hfew
    split <;> exact not_cools_waits _

/-- A rate limit that does not is waited out. -/
theorem waits_onRateLimit {retryAfter : Option Nat} (h : ¬ (t.onRateLimit retryAfter).1.Due) :
    ∃ delay, (t.onRateLimit retryAfter).2 = .waits delay := by
  have hfew : ¬ maxConsecutive429 ≤ t.consecutive429 + 1 := fun hmany => h (Or.inl hmany)
  have hsnd : (t.onRateLimit retryAfter).2 = _ := if_neg hfew
  rw [hsnd]
  cases retryAfter with
  | none => exact ⟨_, rfl⟩
  | some after => exact ⟨_, rfl⟩

/-- A server error asks for a cooldown exactly when one is due. -/
theorem cools_onServerError : t.onServerError.2.Cools ↔ t.onServerError.1.Due := by
  show Handled.Cools (if maxServerRetries ≤ t.consecutiveServerErrors + 1 then _ else _) ↔
    (maxConsecutive429 ≤ 0 ∨ maxServerRetries ≤ t.consecutiveServerErrors + 1)
  rw [or_iff_right (by decide)]
  split
  · next hmany => exact iff_of_true ⟨_, rfl⟩ hmany
  · next hfew => exact iff_of_false (not_cools_waits _) hfew

/-- What a handler asks for is the whole cooldown. -/
theorem long_onRateLimit (retryAfter : Option Nat) (reason : String) (wait : Nat)
    (h : (t.onRateLimit retryAfter).2 = .temporaryPause reason wait) : serverCooldown ≤ wait := by
  by_cases hdue : (t.onRateLimit retryAfter).1.Due
  · obtain ⟨_, hpause⟩ := (cools_onRateLimit retryAfter).mpr hdue
    rw [hpause] at h
    cases h
    exact Nat.le_refl _
  · obtain ⟨_, hwaits⟩ := waits_onRateLimit hdue
    rw [hwaits] at h
    cases h

theorem long_onServerError (reason : String) (wait : Nat)
    (h : t.onServerError.2 = .temporaryPause reason wait) : serverCooldown ≤ wait := by
  unfold ErrorTracker.onServerError at h
  dsimp only at h
  split at h
  · cases h
    exact Nat.le_refl _
  · cases h

/-- A validation error asks for none, and none is due after it. -/
theorem cools_onValidationError (now : Nat) (lastError : String) :
    (t.onValidationError now lastError).2.Cools ↔ (t.onValidationError now lastError).1.Due := by
  apply iff_of_false
  · show ¬ Handled.Cools (if _ then _ else _)
    exact not_cools_ite (not_cools_pause _) (not_cools_waits _)
  · exact not_due_of_zero rfl rfl

/-! ### A thread and its time -/

/-- What a thread's waiting depends on.  `due` is nobody's variable: it is when the tracker last
recorded that a cooldown is due. -/
structure Pace where
  tracker : ErrorTracker := {}
  clock : Nat := 0
  due : Option Nat := none
  stopped : Bool := false
  deriving DecidableEq, Repr

/-- `stop_event.wait(timeout)`. -/
def Pace.wait (p : Pace) (timeout : Nat) : Pace :=
  { p with clock := if p.stopped then p.clock else p.clock + timeout }

/-- The tracker is told something. -/
def Pace.record (p : Pace) (t : ErrorTracker) : Pace :=
  { p with tracker := t, due := if t.Due then some p.clock else p.due }

/-- So much time has passed since a cooldown was last due. -/
def Pace.Slack (p : Pace) (n : Nat) : Prop := ∀ t, p.due = some t → t + n ≤ p.clock

variable {p : Pace} {m n : Nat}

@[simp] theorem Pace.stopped_wait (timeout : Nat) : (p.wait timeout).stopped = p.stopped := rfl

@[simp] theorem Pace.due_wait (timeout : Nat) : (p.wait timeout).due = p.due := rfl

@[simp] theorem Pace.stopped_record : (p.record t).stopped = p.stopped := rfl

theorem Pace.clock_wait (h : p.stopped = false) (timeout : Nat) :
    (p.wait timeout).clock = p.clock + timeout := by
  simp [Pace.wait, h]

theorem Pace.Slack.mono (h : p.Slack n) (hmn : m ≤ n) : p.Slack m := by
  intro t ht
  have := h t ht
  omega

/-- A wait adds to the slack. -/
theorem Pace.Slack.wait (h : p.Slack n) (hp : p.stopped = false) (timeout : Nat) :
    (p.wait timeout).Slack (n + timeout) := by
  intro t ht
  have := h t ht
  rw [Pace.clock_wait hp]
  omega

/-- Whatever is recorded, it is recorded now. -/
theorem Pace.Slack.record (h : p.Slack 0) : (p.record t).Slack 0 := by
  intro now hnow
  unfold Pace.record at hnow
  dsimp only at hnow
  split at hnow
  · cases hnow
    exact Nat.le_refl _
  · exact h now hnow

/-- What makes no cooldown due leaves the slack. -/
theorem Pace.Slack.quiet (h : p.Slack n) (ht : ¬ t.Due) : (p.record t).Slack n := by
  unfold Pace.record
  rw [if_neg ht]
  exact h

end Sda.Dropship
