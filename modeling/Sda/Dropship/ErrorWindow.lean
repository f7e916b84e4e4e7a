/-
Sda/Dropship/ErrorWindow.lean

What the error tracker counts as an hour.

`on_validation_error` is documented as a sliding window; it keeps one start and one counter.  So a
flood of errors that straddles the end of a window is not one: three errors within two minutes do
not pause a thread when the first of them was the last of its hour.
-/
import Sda.Dropship.Backoff
import Sda.Lib.Run
import Sda.Lib.Windows

namespace Sda.Dropship

/-- One call of a handler of the tracker. -/
inductive Report
  | success
  | rateLimit (retryAfter : Option Nat)
  | validation (now : Nat) (lastError : String)
  | server
  deriving DecidableEq, Repr

/-- What a call leaves of the tracker. -/
def ErrorTracker.report (t : ErrorTracker) : Report → ErrorTracker
  | .success => t.onSuccess
  | .rateLimit retryAfter => (t.onRateLimit retryAfter).1
  | .validation now lastError => (t.onValidationError now lastError).1
  | .server => t.onServerError.1

/-- The tracker of a thread after these calls. -/
def ErrorTracker.after (rs : List Report) : ErrorTracker :=
  run ErrorTracker.report {} rs

/-- When the validation errors among the calls happened. -/
def errorTimes (rs : List Report) : List Nat :=
  rs.filterMap fun
    | .validation now _ => some now
    | _ => none

/-- `PauseRequired` is raised. -/
def Handled.Pauses (h : Handled) : Prop := ∃ reason, h = .pause reason

/-- So many errors in the last hour that a pause is due, as documented. -/
def Flood (times : List Nat) (now : Nat) : Prop :=
  maxErrorsInWindow ≤ (times.filter fun t => decide (now - t ≤ errorWindow)).length

instance (times : List Nat) (now : Nat) : Decidable (Flood times now) :=
  inferInstanceAs (Decidable (_ ≤ _))

/-- The last error but one, if it is within the last hour, lies in the window that is open. -/
def ErrorTracker.InWindow (t : ErrorTracker) (times : List Nat) (now : Nat) : Prop :=
  ∀ earlier, times.reverse[1]? = some earlier → now - earlier ≤ errorWindow →
    t.windowOver now = false ∧ ∃ start, t.windowStart = some start ∧ start ≤ earlier

/-! ### The tracker's window -/

variable {t : ErrorTracker} {now : Nat} {rs : List Report}

/-- The tumbling window in a tracker. -/
def ErrorTracker.window (t : ErrorTracker) : Tumbling := ⟨t.windowStart, t.errorsInWindow⟩

theorem over_window : t.window.over errorWindow now = t.windowOver now := by
  unfold Tumbling.over ErrorTracker.windowOver ErrorTracker.window
  cases t.windowStart with
  | none => rfl
  | some start => rfl

/-- A validation error is an event of the window. -/
theorem window_onValidationError (lastError : String) :
    (t.onValidationError now lastError).1.window = t.window.add errorWindow now := by
  unfold ErrorTracker.onValidationError Tumbling.add
  rw [over_window]
  cases t.windowOver now with
  | true => rfl
  | false => rfl

/-- It pauses the thread when the window then counts enough. -/
theorem pauses_onValidationError {lastError : String} :
    (t.onValidationError now lastError).2.Pauses ↔
      maxErrorsInWindow ≤ (t.window.add errorWindow now).count := by
  rw [← window_onValidationError lastError]
  show Handled.Pauses (if maxErrorsInWindow ≤
    (t.onValidationError now lastError).1.errorsInWindow then _ else _) ↔ _
  split
  · next hmany => exact iff_of_true ⟨_, rfl⟩ hmany
  · next hfew => exact iff_of_false (by rintro ⟨_, h⟩; cases h) hfew

/-- **Step.**  Only a validation error moves the window. -/
theorem counts_report {times : List Nat} (h : t.window.Counts errorWindow times.reverse)
    (r : Report) (hts : (times ++ errorTimes [r]).Pairwise (· ≤ ·)) :
    (t.report r).window.Counts errorWindow (times ++ errorTimes [r]).reverse := by
  cases r with
  | success =>
    rw [show times ++ errorTimes [Report.success] = times from List.append_nil times]
    exact h
  | rateLimit retryAfter =>
    rw [show times ++ errorTimes [Report.rateLimit retryAfter] = times from List.append_nil times]
    exact h
  | server =>
    rw [show times ++ errorTimes [Report.server] = times from List.append_nil times]
    exact h
  | validation now lastError =>
    have hrev : (times ++ errorTimes [Report.validation now lastError]).reverse =
        now :: times.reverse := by
      simp [errorTimes]
    rw [hrev]
    show (t.onValidationError now lastError).1.window.Counts errorWindow _
    rw [window_onValidationError]
    apply h.add
    rw [← hrev]
    exact List.pairwise_reverse.mpr hts

/-- **Run.**  After any calls the window counts the errors since its start. -/
theorem counts_after (hts : (errorTimes rs).Pairwise (· ≤ ·)) :
    (ErrorTracker.after rs).window.Counts errorWindow (errorTimes rs).reverse := by
  induction rs using List.reverseRecOn with
  | nil => exact rfl
  | append_singleton rs r ih =>
    have hsplit : errorTimes (rs ++ [r]) = errorTimes rs ++ errorTimes [r] :=
      List.filterMap_append
    rw [hsplit] at hts ⊢
    rw [ErrorTracker.after, run_append]
    exact counts_report (ih (List.pairwise_append.mp hts).1) r hts

/-- **The documented window.**  After any calls, a validation error pauses the thread exactly when
enough errors lie within the last hour, if and only if the last error but one, should it be that
recent, lies in the window that is open. -/
theorem pauses_iff_flood_iff (rs : List Report) (now : Nat) (lastError : String)
    (htimes : (errorTimes rs ++ [now]).Pairwise (· ≤ ·)) :
    (((ErrorTracker.after rs).onValidationError now lastError).2.Pauses ↔
        Flood (errorTimes rs ++ [now]) now) ↔
      (ErrorTracker.after rs).InWindow (errorTimes rs) now := by
  have hrev : (now :: (errorTimes rs).reverse).Pairwise (· ≥ ·) := by
    have h := List.pairwise_reverse.mpr htimes
    rwa [List.reverse_append] at h
  have hcounts := counts_after (List.pairwise_append.mp htimes).1
  have hflood : Flood (errorTimes rs ++ [now]) now ↔
      2 < recent errorWindow now (now :: (errorTimes rs).reverse) := by
    rw [Flood, ← List.countP_eq_length_filter, recent, ← List.countP_reverse,
      List.reverse_append]
    rfl
  rw [pauses_onValidationError, hflood]
  have hagree := hcounts.lt_count_iff_lt_recent hrev 1
  rw [over_window] at hagree
  exact hagree

/-- Three errors in a row within one window. -/
theorem pauses_iff_flood_in_window :
    ((ErrorTracker.after [.validation 0 "", .validation (seconds 60) ""]).onValidationError
        (seconds 120) "").2.Pauses ↔
      Flood (errorTimes [.validation 0 "", .validation (seconds 60) ""] ++ [seconds 120])
        (seconds 120) := by
  apply (pauses_iff_flood_iff [.validation 0 "", .validation (seconds 60) ""] (seconds 120) ""
    (by decide)).mpr
  intro earlier hearlier _
  cases hearlier
  exact ⟨by decide, 0, rfl, Nat.le_refl _⟩

/-- The hour that began with the first error ends between the second and the third; three errors
within three minutes do not pause the thread. -/
theorem flood_without_pause :
    ¬ ∀ (rs : List Report) (now : Nat) (lastError : String),
      (errorTimes rs ++ [now]).Pairwise (· ≤ ·) →
      (((ErrorTracker.after rs).onValidationError now lastError).2.Pauses ↔
        Flood (errorTimes rs ++ [now]) now) := by
  intro h
  have hpauses := (h [.validation 0 "", .validation (seconds 3540) "",
    .validation (seconds 3660) ""] (seconds 3720) "" (by decide)).mpr (by decide)
  have hfew := pauses_onValidationError.mp hpauses
  exact absurd hfew (by decide)

end Sda.Dropship
