/-
Sda/Dropship/Cooldown.lean

When a poster or a cleaner goes on after a cooldown is due (poster_loop in
services/dropship/poster.py, cleaner_loop in cleaner.py).

The cleaner catches `TemporaryPauseRequired` and sleeps.  The poster has no such handler: the
exception ends the URL like any other, and the thread sleeps `source_delay`, and after the last
URL of the cycle `poster_cycle_interval`.  So a poster keeps the cooldown only if its
configuration spaces the URLs as widely as that, which is what `Spaced` says.

* `cooldown_respected` — a poster respects the cooldown, whatever it is answered, exactly if no
  slot is free or its cycles are `Spaced`; a cleaner always does;
* `cooldown_ignored` — two URLs and a second between them.
-/
import Sda.Dropship.Cleaner
import Sda.Dropship.Poster
import Mathlib.Data.Fintype.EquivFin

namespace Sda.Dropship

open Sync (DropshipProductStatus)

/-! ### The property -/

/-- The step talks to the source or to the marketplace. -/
def Sends (s : Poster) : Action → Prop
  | .page _ | .lastPage =>
    ∃ c todo minPrice router items, s.phase = .fetch c todo minPrice router items
  | .attempt _ => (∃ c todo router items, s.phase = .post c todo router items) ∨
      ∃ c todo router items item f, s.phase = .fallback c todo router items item f
  | _ => False

/-- No request is sent while a cooldown is due. -/
def Respects (s : Poster) (a : Action) : Prop :=
  s.stopped = false → Sends s a → s.Slack serverCooldown

/-! ### Cycles that are spaced -/

/-- After so long a pause the next URL is opened; cycles without URLs are pauses. -/
def Covered (paused : Nat) : List Cycle → Prop
  | [] => True
  | c :: rest =>
    if c.urls = [] then Covered (paused + c.cycleInterval) rest else serverCooldown ≤ paused

/-- The pauses between any two consecutive URLs make up a cooldown. -/
def Spaced : List Cycle → Prop
  | [] => True
  | c :: rest =>
    (match c.urls with
      | [] => True
      | [_] => Covered (c.sourceDelay + c.cycleInterval) rest
      | _ :: _ :: _ => serverCooldown ≤ c.sourceDelay) ∧ Spaced rest

/-- What is spaced after a URL with these still to do in its cycle. -/
def Leaves (c : Cycle) (todo : List TargetUrl) (upcoming : List Cycle) : Prop :=
  serverCooldown ≤ c.sourceDelay ∨
    todo = [] ∧ Covered (c.sourceDelay + c.cycleInterval) upcoming

theorem covered_of_le {paused : Nat} (h : serverCooldown ≤ paused) (cycles : List Cycle) :
    Covered paused cycles := by
  induction cycles generalizing paused with
  | nil => trivial
  | cons c rest ih =>
    unfold Covered
    split
    · apply ih
      omega
    · exact h

/-- The first URL of a spaced cycle. -/
theorem Spaced.leaves {c : Cycle} {rest : List Cycle} (h : Spaced (c :: rest)) {url : TargetUrl}
    {todo : List TargetUrl} (hurls : c.urls = url :: todo) : Leaves c todo rest := by
  obtain ⟨hfirst, -⟩ := h
  rw [hurls] at hfirst
  cases todo with
  | nil => exact Or.inr ⟨rfl, hfirst⟩
  | cons => exact Or.inl hfirst

/-! ### A poster whose cycles are spaced -/

variable {cfg : Config} {s : Poster} {c : Cycle} {todo : List TargetUrl} {router : VariantRouter}
  {items : List Item} {item : Item} {n : Nat}

/-- Where a request may come next, the cooldown is over; elsewhere the pauses to come cover it. -/
def Steady (s : Poster) : Prop :=
  Spaced s.upcoming ∧
    match s.phase with
    | .cycle => ∃ paused, s.Slack paused ∧ Covered paused s.upcoming
    | .urls c [] => ∃ paused, s.Slack paused ∧ Covered (paused + c.cycleInterval) s.upcoming
    | .urls c (_ :: todo) | .fetch c todo .. | .post c todo .. | .fallback c todo .. =>
      s.Slack serverCooldown ∧ Leaves c todo s.upcoming
    | .ended => True

/-- Leaving a URL, even right after a cooldown became due. -/
theorem steady_leaveUrl (hstop : s.stopped = false) (hspaced : Spaced s.upcoming)
    (hslack : s.Slack 0) (hleaves : Leaves c todo s.upcoming) : Steady (s.leaveUrl c todo) := by
  refine ⟨hspaced, ?_⟩
  have hwait : (s.leaveUrl c todo).Slack c.sourceDelay := by
    have := hslack.wait hstop c.sourceDelay
    rwa [Nat.zero_add] at this
  cases todo with
  | nil =>
    refine ⟨c.sourceDelay, hwait, ?_⟩
    rcases hleaves with hlong | ⟨-, hcovered⟩
    · apply covered_of_le
      omega
    · exact hcovered
  | cons url todo =>
    -- there is a further URL, so the delay alone is long enough
    have hlong : serverCooldown ≤ c.sourceDelay := hleaves.resolve_right fun h => nomatch h.1
    exact ⟨hwait.mono hlong, Or.inl hlong⟩

theorem steady_nextItem (hstop : s.stopped = false) (hspaced : Spaced s.upcoming)
    (hslack : s.Slack serverCooldown) (hleaves : Leaves c todo s.upcoming) :
    Steady (s.nextItem c todo router items) := by
  refine ⟨hspaced, ?_, hleaves⟩
  apply (hslack.wait hstop c.itemDelay).mono
  omega

/-- An error is handled. -/
theorem steady_handle (hstop : s.stopped = false) (hspaced : Spaced s.upcoming)
    (hslack : s.Slack serverCooldown) (hleaves : Leaves c todo s.upcoming)
    {h : ErrorTracker × Handled} (hcools : h.2.Cools ↔ h.1.Due) :
    Steady (s.handle c todo router items h) := by
  unfold Poster.handle
  dsimp only
  split
  · next delay hwaits =>
    have hquiet : ¬ h.1.Due := by
      rw [← hcools, hwaits]
      exact not_cools_waits delay
    have hwaited : ((s.record h.1).waits delay).Slack serverCooldown := by
      apply ((hslack.quiet hquiet).wait hstop delay).mono
      omega
    exact steady_nextItem (s := (s.record h.1).waits delay) hstop hspaced hwaited hleaves
  · exact ⟨hspaced, trivial⟩
  · have hnow : (s.record h.1).Slack 0 := (hslack.mono (Nat.zero_le _)).record
    exact steady_leaveUrl (s := s.record h.1) hstop hspaced hnow hleaves

theorem steady_postItem (hstop : s.stopped = false) (hspaced : Spaced s.upcoming)
    (hslack : s.Slack serverCooldown) (hleaves : Leaves c todo s.upcoming) (r : Attempt) :
    Steady (s.postItem cfg c todo item items r) := by
  unfold Poster.postItem
  dsimp only
  -- what is saved concerns neither the time nor the cycles
  have hstop : (s.save item r).stopped = false := hstop
  have hspaced : Spaced (s.save item r).upcoming := hspaced
  have hslack : (s.save item r).Slack serverCooldown := hslack
  have hleaves : Leaves c todo (s.save item r).upcoming := hleaves
  split
  · exact steady_nextItem hstop hspaced (hslack.quiet (not_due_of_zero rfl rfl)) hleaves
  · exact steady_nextItem hstop hspaced hslack hleaves
  · exact steady_nextItem hstop hspaced hslack hleaves
  · exact steady_leaveUrl hstop hspaced (hslack.mono (Nat.zero_le _)) hleaves
  · exact steady_handle hstop hspaced hslack hleaves (cools_onRateLimit none)
  · exact steady_handle hstop hspaced hslack hleaves (cools_onValidationError _ _)
  · exact steady_handle hstop hspaced hslack hleaves cools_onServerError
  · exact ⟨hspaced, hslack, hleaves⟩

theorem steady_tryCandidate (hstop : s.stopped = false) (hspaced : Spaced s.upcoming)
    (hslack : s.Slack serverCooldown) (hleaves : Leaves c todo s.upcoming) (f : Fallback)
    (r : Attempt) : Steady (s.tryCandidate c todo router items item f r) := by
  unfold Poster.tryCandidate
  dsimp only
  have hstop : (s.save item r).stopped = false := hstop
  have hspaced : Spaced (s.save item r).upcoming := hspaced
  have hslack : (s.save item r).Slack serverCooldown := hslack
  have hleaves : Leaves c todo (s.save item r).upcoming := hleaves
  have hend := steady_leaveUrl hstop hspaced (hslack.mono (Nat.zero_le _)) hleaves
  split
  · exact steady_nextItem hstop hspaced (hslack.quiet (not_due_of_zero rfl rfl)) hleaves
  · exact ⟨hspaced, hslack, hleaves⟩
  · exact ⟨hspaced, hslack, hleaves⟩
  · exact hend
  · exact hend
  · exact hend
  · exact hend
  · exact hend

theorem steady_startCycle (hspaced : Spaced s.upcoming) {paused : Nat} (hslack : s.Slack paused)
    (hcovered : Covered paused s.upcoming) : Steady s.startCycle := by
  unfold Poster.startCycle
  split
  · exact ⟨hspaced, trivial⟩
  next c rest hupcoming =>
  split
  · exact ⟨hspaced, trivial⟩
  rw [hupcoming] at hspaced hcovered
  unfold Poster.started
  refine ⟨hspaced.2, ?_⟩
  unfold Covered at hcovered
  cases hurls : c.urls with
  | nil =>
    rw [if_pos hurls] at hcovered
    exact ⟨paused, hslack, hcovered⟩
  | cons url todo =>
    rw [if_neg (by rw [hurls]; exact nofun)] at hcovered
    exact ⟨hslack.mono hcovered, hspaced.leaves hurls⟩

/-- The invariant: a thread that is stopped promises nothing. -/
def Inv (s : Poster) : Prop := s.stopped = true ∨ Steady s

/-- Where a URL is being worked on, the cooldown is over. -/
theorem Steady.fetching (h : Steady s) {minPrice : Nat}
    (hphase : s.phase = .fetch c todo minPrice router items) :
    s.Slack serverCooldown ∧ Leaves c todo s.upcoming := by
  have h := h.2
  rwa [hphase] at h

theorem Steady.posting (h : Steady s) (hphase : s.phase = .post c todo router items) :
    s.Slack serverCooldown ∧ Leaves c todo s.upcoming := by
  have h := h.2
  rwa [hphase] at h

theorem Steady.fallingBack (h : Steady s) {f : Fallback}
    (hphase : s.phase = .fallback c todo router items item f) :
    s.Slack serverCooldown ∧ Leaves c todo s.upcoming := by
  have h := h.2
  rwa [hphase] at h

theorem Steady.opening (h : Steady s) {url : TargetUrl} (hphase : s.phase = .urls c (url :: todo)) :
    s.Slack serverCooldown ∧ Leaves c todo s.upcoming := by
  have h := h.2
  rwa [hphase] at h

/-- A URL is left from wherever it is worked on. -/
theorem Steady.leaves (h : Steady s) (hstop : s.stopped = false)
    (hbusy : s.Slack serverCooldown ∧ Leaves c todo s.upcoming) : Steady (s.leaveUrl c todo) :=
  steady_leaveUrl hstop h.1 (hbusy.1.mono (Nat.zero_le _)) hbusy.2

theorem steady_go (h : Steady s) (hstop : s.stopped = false) : Steady (s.go cfg) := by
  unfold Poster.go
  split
  · next hphase =>
    have hcycle := h.2
    rw [hphase] at hcycle
    obtain ⟨paused, hslack, hcovered⟩ := hcycle
    exact steady_startCycle h.1 hslack hcovered
  · next c todo hphase =>
    cases todo with
    | nil =>
      -- the end of a cycle
      have hend := h.2
      rw [hphase] at hend
      obtain ⟨paused, hslack, hcovered⟩ := hend
      exact ⟨h.1, _, hslack.wait hstop c.cycleInterval, hcovered⟩
    | cons url todo =>
      have hbusy := h.opening hphase
      rw [Poster.openUrl, if_neg (by rw [hstop]; exact Bool.false_ne_true)]
      dsimp only
      split
      · exact h.leaves hstop hbusy
      · exact ⟨h.1, hbusy⟩
  · next hphase => exact h.leaves hstop (h.posting hphase)
  · next hphase =>
    split
    · exact h.leaves hstop (h.posting hphase)
    · exact h
  · next hphase =>
    split
    · exact h.leaves hstop (h.fallingBack hphase)
    · exact h
  · exact h
  · exact h

theorem steady_fetched (h : Steady s) (hstop : s.stopped = false)
    (page : Option (List (Option Item))) : Steady (s.fetched page) := by
  unfold Poster.fetched
  split
  · next c todo minPrice router items page hphase =>
    obtain ⟨hslack, hleaves⟩ := h.fetching hphase
    unfold Poster.takePage
    split
    · exact ⟨h.1, hslack, hleaves⟩
    · refine ⟨h.1, ?_, hleaves⟩
      apply (hslack.wait hstop c.sourceDelay).mono
      omega
  · next hphase => exact ⟨h.1, h.fetching hphase⟩
  · exact h

theorem steady_attempt (h : Steady s) (hstop : s.stopped = false) (a : Answers) :
    Steady (s.attempt cfg a) := by
  unfold Poster.attempt
  split
  · next hphase =>
    obtain ⟨hslack, hleaves⟩ := h.posting hphase
    split
    · exact h
    · exact steady_postItem hstop h.1 hslack hleaves _
  · next hphase =>
    obtain ⟨hslack, hleaves⟩ := h.fallingBack hphase
    split
    · exact h
    · exact steady_tryCandidate hstop h.1 hslack hleaves _ _
  · exact h

theorem steady_fail (h : Steady s) (hstop : s.stopped = false) : Steady s.fail := by
  unfold Poster.fail
  split
  · next hphase => exact h.leaves hstop (h.opening hphase)
  · next hphase => exact h.leaves hstop (h.fetching hphase)
  · next hphase => exact h.leaves hstop (h.posting hphase)
  · next hphase => exact h.leaves hstop (h.fallingBack hphase)
  · exact h
  · exact h
  · exact h

theorem steady_elapse (h : Steady s) (t : Nat) : Steady { s with clock := s.clock + t } := by
  have later : ∀ {n}, s.Slack n → Pace.Slack { s.toPace with clock := s.clock + t } n := by
    intro n hslack now hnow
    have := hslack now hnow
    show now + n ≤ s.clock + t
    omega
  refine ⟨h.1, ?_⟩
  have hphase := h.2
  revert hphase
  dsimp only
  split
  · exact fun ⟨paused, hslack, hcovered⟩ => ⟨paused, later hslack, hcovered⟩
  · exact fun ⟨paused, hslack, hcovered⟩ => ⟨paused, later hslack, hcovered⟩
  · exact fun ⟨hslack, hleaves⟩ => ⟨later hslack, hleaves⟩
  · exact fun ⟨hslack, hleaves⟩ => ⟨later hslack, hleaves⟩
  · exact fun ⟨hslack, hleaves⟩ => ⟨later hslack, hleaves⟩
  · exact fun ⟨hslack, hleaves⟩ => ⟨later hslack, hleaves⟩
  · exact fun _ => trivial

/-! ### Only the stop event stops a thread -/

theorem stopped_handle (h : ErrorTracker × Handled) :
    (s.handle c todo router items h).stopped = s.stopped := by
  unfold Poster.handle
  dsimp only
  split <;> rfl

theorem stopped_postItem (r : Attempt) :
    (s.postItem cfg c todo item items r).stopped = s.stopped := by
  unfold Poster.postItem
  dsimp only
  split
  · rfl
  · rfl
  · rfl
  · rfl
  · exact stopped_handle _
  · exact stopped_handle _
  · exact stopped_handle _
  · rfl

theorem stopped_tryCandidate (f : Fallback) (r : Attempt) :
    (s.tryCandidate c todo router items item f r).stopped = s.stopped := by
  unfold Poster.tryCandidate
  dsimp only
  split <;> rfl

theorem stopped_go : (s.go cfg).stopped = s.stopped := by
  unfold Poster.go
  split
  · unfold Poster.startCycle
    split
    · rfl
    split <;> rfl
  · next c todo _ =>
    cases todo with
    | nil => rfl
    | cons url todo =>
      rw [Poster.openUrl]
      split
      · rfl
      dsimp only
      split <;> rfl
  · rfl
  · split <;> rfl
  · split <;> rfl
  · rfl
  · rfl

theorem stopped_fetched (page : Option (List (Option Item))) :
    (s.fetched page).stopped = s.stopped := by
  unfold Poster.fetched
  split
  · unfold Poster.takePage
    split <;> rfl
  · rfl
  · rfl

theorem stopped_attempt (a : Answers) : (s.attempt cfg a).stopped = s.stopped := by
  unfold Poster.attempt
  split
  · split
    · rfl
    · exact stopped_postItem _
  · split
    · rfl
    · exact stopped_tryCandidate _ _
  · rfl

theorem stopped_fail : s.fail.stopped = s.stopped := by
  unfold Poster.fail
  split <;> rfl

/-- A thread that is stopped stays stopped. -/
theorem stopped_step (a : Action) (h : s.stopped = true) : (step cfg s a).stopped = true := by
  cases a with
  | go => exact stopped_go.trans h
  | page page => exact (stopped_fetched _).trans h
  | lastPage => exact (stopped_fetched _).trans h
  | attempt a => exact (stopped_attempt a).trans h
  | raises => exact stopped_fail.trans h
  | stop => rfl
  | elapse t => exact h

/-- **Every step** keeps the invariant. -/
theorem inv_step (a : Action) (h : Inv s) : Inv (step cfg s a) := by
  by_cases hstop : s.stopped = true
  · exact Or.inl (stopped_step a hstop)
  rw [Bool.not_eq_true] at hstop
  have hsteady : Steady s := h.resolve_left (by rw [hstop]; exact nofun)
  cases a with
  | go => exact Or.inr (steady_go hsteady hstop)
  | page page => exact Or.inr (steady_fetched hsteady hstop _)
  | lastPage => exact Or.inr (steady_fetched hsteady hstop _)
  | attempt a => exact Or.inr (steady_attempt hsteady hstop a)
  | raises => exact Or.inr (steady_fail hsteady hstop)
  | stop => exact Or.inl rfl
  | elapse t => exact Or.inr (steady_elapse hsteady t)

/-! ### A poster whose cycles are not -/

/-- The thread respects the cooldown, whatever happens from here. -/
def Obedient (cfg : Config) (s : Poster) : Prop :=
  ∀ actions, Along (step cfg) Respects s actions

theorem Obedient.next (h : Obedient cfg s) (a : Action) : Obedient cfg (step cfg s a) :=
  fun actions => (h (a :: actions)).2

theorem Obedient.now (h : Obedient cfg s) (a : Action) : Respects s a := (h [a]).1

/-- The pre-check of a URL finds room on these listings. -/
def Slot (cfg : Config) (listings : List Listing) : Prop :=
  VariantRouter.select { ctx := buildVariantContext cfg.variants (listings.map (·.variant)) }
    .platform none cfg.game ≠ none

/-- A cooldown became due, and the thread has paused for so long. -/
def Poster.Dues (s : Poster) (n : Nat) : Prop := ∃ t, s.due = some t ∧ s.clock = t + n

/-- With a free slot the next URL is opened. -/
theorem go_opens {url : TargetUrl} (hphase : s.phase = .urls c (url :: todo))
    (hstop : s.stopped = false) (hslot : Slot cfg s.listings) :
    step cfg s .go =
      { s with phase := .fetch c todo url.minPrice { ctx := s.context cfg } [] } := by
  show s.go cfg = _
  unfold Poster.go
  rw [hphase]
  show s.openUrl cfg c (url :: todo) = _
  rw [Poster.openUrl, if_neg (by rw [hstop]; exact Bool.false_ne_true)]
  exact if_neg hslot

/-- Opening a URL asks the source, so by then the cooldown is over. -/
theorem Obedient.opens (h : Obedient cfg s) {url : TargetUrl}
    (hphase : s.phase = .urls c (url :: todo)) (hstop : s.stopped = false)
    (hslot : Slot cfg s.listings) (hdues : s.Dues n) : serverCooldown ≤ n := by
  obtain ⟨t, hdue, hclock⟩ := hdues
  have hnext := (h.next .go).now (.page [])
  rw [go_opens hphase hstop hslot] at hnext
  have hslack := hnext hstop ⟨c, todo, url.minPrice, _, [], rfl⟩ t hdue
  have hslack : t + serverCooldown ≤ s.clock := hslack
  omega

theorem go_starts {rest : List Cycle} (hphase : s.phase = .cycle)
    (hupcoming : s.upcoming = c :: rest) (hstop : s.stopped = false) :
    step cfg s .go = s.started c rest := by
  show s.go cfg = _
  unfold Poster.go
  rw [hphase]
  show s.startCycle = _
  unfold Poster.startCycle
  rw [hupcoming]
  exact if_neg (by rw [hstop]; exact Bool.false_ne_true)

theorem go_ends (hphase : s.phase = .urls c []) :
    step cfg s .go = s.goOn c.cycleInterval .cycle := by
  show s.go cfg = _
  unfold Poster.go
  rw [hphase]
  rfl

/-- From the end of a cycle on the pauses cover the cooldown. -/
theorem Obedient.covered {cycles : List Cycle} (h : Obedient cfg s) (hphase : s.phase = .cycle)
    (hupcoming : s.upcoming = cycles) (hstop : s.stopped = false) (hslot : Slot cfg s.listings)
    (hdues : s.Dues n) : Covered n cycles := by
  induction cycles generalizing s n with
  | nil => trivial
  | cons c rest ih =>
    have hstarted := h.next .go
    rw [go_starts hphase hupcoming hstop] at hstarted
    unfold Covered
    split
    · next hurls =>
      -- a cycle without URLs only waits
      have hphase' : (s.started c rest).phase = .urls c [] := congrArg (Phase.urls c) hurls
      have hended := hstarted.next .go
      rw [go_ends hphase'] at hended
      obtain ⟨t, hdue, hclock⟩ := hdues
      refine ih hended rfl rfl hstop hslot ⟨t, hdue, ?_⟩
      show (s.toPace.wait c.cycleInterval).clock = _
      rw [Pace.clock_wait hstop]
      omega
    · next hurls =>
      obtain ⟨url, todo, hcons⟩ := List.exists_cons_of_ne_nil hurls
      have hphase' : (s.started c rest).phase = .urls c (url :: todo) :=
        congrArg (Phase.urls c) hcons
      exact hstarted.opens hphase' hstop hslot hdues

/-! ### Five rate limits in a row -/

/-- The create call is answered with a rate limit. -/
def limited : Answers where
  create := .rejected (.failed ⟨.rateLimit, "HTTP 429", some 429, true, {}, ""⟩ (some 429) false "")

/-- An item that is never refused before its create call. -/
def plainItem (price : Nat) (id : String) : Item where
  id
  price := price + 1
  subject := openSubject

/-- The attempt leaves nothing behind. -/
theorem attemptPost_limited (hslot : router.select .platform none cfg.game ≠ none) (price : Nat)
    (id : String) : ∃ sent, attemptPost cfg router false (plainItem price id) limited =
      { outcome := .rateLimit, sent, router } := by
  have hselect : router.select .platform
      (getEligibleVariants cfg.game (plainItem price id).subject) cfg.game =
        router.select .platform none cfg.game := select_openSubject cfg.game
  obtain ⟨slug, hslug⟩ := Option.ne_none_iff_exists'.mp hslot
  have hregion : checkedRegion router (plainItem price id).subject = some "" :=
    if_pos (Or.inr rfl)
  have hown : ¬ ((plainItem price id).foreign cfg = true ∨ (plainItem price id).price = 0) := by
    rintro (hforeign | hprice)
    · simp [Item.foreign, plainItem] at hforeign
    · cases hprice
  refine ⟨some slug, ?_⟩
  rw [attemptPost, if_neg hown, if_neg hslot, if_neg (by decide), hselect, hslug, hregion]
  rfl

/-- The thread has recorded so many rate limits in a row, and these items are next. -/
structure Counting (cfg : Config) (s : Poster) (c : Cycle) (todo : List TargetUrl) (k : Nat)
    (items : List Item) : Prop where
  phase : ∃ router, s.phase = .post c todo router items ∧
    router.select .platform none cfg.game ≠ none
  count : s.tracker.consecutive429 = k
  stopped : s.stopped = false

/-- The next one is handled. -/
theorem Counting.attempt {k price : Nat} {id : String}
    (h : Counting cfg s c todo k (plainItem price id :: items)) :
    ∃ router, router.select .platform none cfg.game ≠ none ∧
      step cfg s (.attempt limited) =
        s.handle c todo router items (s.tracker.onRateLimit none) := by
  obtain ⟨router, hphase, hslot⟩ := h.phase
  obtain ⟨sent, hattempt⟩ := attemptPost_limited hslot price id
  refine ⟨router, hslot, ?_⟩
  show s.attempt cfg limited = _
  unfold Poster.attempt
  rw [hphase]
  dsimp only
  rw [if_neg (by rw [h.stopped]; exact Bool.false_ne_true), hattempt]
  rfl

/-- Where the thread is after five. -/
structure Limited (cfg : Config) (s s' : Poster) (c : Cycle) (todo : List TargetUrl) : Prop where
  obedient : Obedient cfg s'
  phase : s'.phase = .urls c todo
  stopped : s'.stopped = false
  upcoming : s'.upcoming = s.upcoming
  listings : s'.listings = s.listings
  dues : s'.Dues c.sourceDelay

/-- Up to the fifth the thread goes on to the next item, and then it leaves the URL. -/
theorem Counting.limited (hob : Obedient cfg s) {k price : Nat} {ids : List String}
    (h : Counting cfg s c todo k (ids.map (plainItem price))) (hlength : ids.length + k = 5)
    (hids : ids ≠ []) : ∃ s', Limited cfg s s' c todo := by
  induction ids generalizing s k with
  | nil => exact absurd rfl hids
  | cons id ids ih =>
    obtain ⟨router, hslot, hstep⟩ := h.attempt
    have hnext := hob.next (.attempt limited)
    rw [hstep] at hnext
    rw [List.length_cons] at hlength
    have hcount : (s.tracker.onRateLimit none).1.consecutive429 = k + 1 :=
      congrArg (· + 1) h.count
    cases ids with
    | nil =>
      have hk : k + 1 = 5 := by simpa [Nat.add_comm] using hlength
      -- the fifth: a cooldown is due, and the URL is left
      have hdue : (s.tracker.onRateLimit none).1.Due := by
        apply Or.inl
        rw [hcount, hk]
        exact Nat.le_refl 5
      obtain ⟨reason, hpause⟩ := (cools_onRateLimit none).mpr hdue
      unfold Poster.handle at hnext
      dsimp only at hnext
      rw [hpause] at hnext
      refine ⟨_, hnext, rfl, h.stopped, rfl, rfl, s.clock, if_pos hdue, ?_⟩
      show ((s.toPace.record _).wait c.sourceDelay).clock = _
      rw [Pace.clock_wait (p := s.toPace.record _) h.stopped]
      rfl
    | cons id' ids =>
      have hfew : ¬ (s.tracker.onRateLimit none).1.Due := by
        rintro (hmany | hnever)
        · rw [hcount] at hmany
          have hmany : 5 ≤ k + 1 := hmany
          simp at hlength
          omega
        · cases hnever
      obtain ⟨delay, hwaits⟩ := waits_onRateLimit hfew
      unfold Poster.handle at hnext
      dsimp only at hnext
      rw [hwaits] at hnext
      have hlength : (id' :: ids).length + (k + 1) = 5 := by omega
      obtain ⟨s', hs'⟩ := ih hnext ⟨⟨router, rfl, hslot⟩, hcount, h.stopped⟩ hlength
        (List.cons_ne_nil _ _)
      exact ⟨s', hs'.obedient, hs'.phase, hs'.stopped, hs'.upcoming, hs'.listings, hs'.dues⟩

/-- Five items nobody has seen, on one page. -/
theorem takeNew_plain {seen : String → Bool} {minPrice : Nat} {ids : List String}
    (hids : ids.Nodup) (hnew : ∀ id ∈ ids, seen id = false) :
    (takeNew minPrice seen (ids.map fun id => some (plainItem minPrice id))).2 =
      ids.map (plainItem minPrice) := by
  induction ids generalizing seen with
  | nil => rfl
  | cons id ids ih =>
    obtain ⟨hid, hids⟩ := List.nodup_cons.mp hids
    have hfirst : seen id = false := hnew id List.mem_cons_self
    have hskip : ¬ (0 < minPrice ∧ (plainItem minPrice id).price < minPrice ∨
        seen (plainItem minPrice id).id = true) := by
      rintro (⟨-, hcheap⟩ | hseen)
      · have hcheap : minPrice + 1 < minPrice := hcheap
        omega
      · have hseen : seen id = true := hseen
        rw [hfirst] at hseen
        cases hseen
    rw [List.map_cons, takeNew, if_neg hskip, List.map_cons]
    show plainItem minPrice id :: _ = _
    rw [ih hids]
    intro id' hid'
    have hne : id' ≠ id := fun heq => hid (heq ▸ hid')
    show (decide (id' = id) || seen id') = false
    rw [decide_eq_false hne, hnew id' (List.mem_cons_of_mem _ hid')]
    rfl

/-- A finite list leaves as many names as one wants. -/
theorem exists_names (known : List String) (n : Nat) :
    ∃ ids : List String, ids.Nodup ∧ ids.length = n ∧ ∀ id ∈ ids, id ∉ known := by
  induction n with
  | zero => exact ⟨[], List.nodup_nil, rfl, fun _ => nofun⟩
  | succ n ih =>
    obtain ⟨ids, hnodup, hlength, hnew⟩ := ih
    obtain ⟨id, hid⟩ := Infinite.exists_notMem_finset (known ++ ids).toFinset
    rw [List.mem_toFinset, List.mem_append, not_or] at hid
    refine ⟨id :: ids, List.nodup_cons.mpr ⟨hid.2, hnodup⟩, by rw [List.length_cons, hlength], ?_⟩
    intro id' hid'
    rcases List.mem_cons.mp hid' with rfl | hmem
    · exact hid.1
    · exact hnew id' hmem

/-- What a resolver blocks are products. -/
theorem mem_of_blocks {products : List (String × DropshipProductStatus)} {id : String}
    (h : blocks (products.lookup id) = true) : id ∈ products.map (·.1) := by
  by_contra hid
  have hnone : products.lookup id = none := by
    rw [List.lookup_eq_none_iff]
    intro p hp
    have hne : id ≠ p.1 := fun heq => hid (heq ▸ List.mem_map_of_mem hp)
    simpa using hne
  rw [hnone] at h
  cases h

/-- **A URL can end in a cooldown**, whatever the store and the game, if a slot is free. -/
theorem Obedient.limited (h : Obedient cfg s) {url : TargetUrl}
    (hphase : s.phase = .urls c (url :: todo)) (hstop : s.stopped = false)
    (htracker : s.tracker = {}) (hslot : Slot cfg s.listings) {known : List String}
    (hseen : ∀ id, s.seen id = true → id ∈ known) : ∃ s', Limited cfg s s' c todo := by
  obtain ⟨ids, hnodup, hlength, hnew⟩ := exists_names known 5
  have hunseen : ∀ id ∈ ids, s.seen id = false := by
    intro id hid
    rw [← Bool.not_eq_true]
    exact fun hblocked => hnew id hid (hseen id hblocked)
  have hopened := h.next .go
  rw [go_opens hphase hstop hslot] at hopened
  -- the source has one page, of five new items
  let page := ids.map fun id => some (plainItem url.minPrice id)
  let opened : Poster :=
    { s with phase := .fetch c todo url.minPrice { ctx := s.context cfg } [] }
  have hpage : step cfg opened (.page page) =
      Poster.goOn { s with seen := (takeNew url.minPrice s.seen page).1 } c.sourceDelay
        (.fetch c todo url.minPrice { ctx := s.context cfg }
          (ids.map (plainItem url.minPrice))) := by
    show opened.takePage c todo url.minPrice _ [] page = _
    unfold Poster.takePage
    rw [if_neg (by rw [hstop]; exact Bool.false_ne_true)]
    dsimp only
    rw [List.nil_append, takeNew_plain hnodup hunseen]
    rfl
  have hposting := (hopened.next (.page page)).next .lastPage
  rw [hpage] at hposting
  have hids : ids ≠ [] := by
    rintro rfl
    cases hlength
  have hcount : s.tracker.consecutive429 = 0 := by rw [htracker]
  obtain ⟨s', hs'⟩ := Counting.limited hposting
    (k := 0) ⟨⟨{ ctx := s.context cfg }, rfl, hslot⟩, hcount, hstop⟩ hlength hids
  exact ⟨s', hs'.obedient, hs'.phase, hs'.stopped, hs'.upcoming, hs'.listings, hs'.dues⟩

/-- Without a request, URL by URL: each fails before its first page. -/
theorem Obedient.skips (h : Obedient cfg s) {urls : List TargetUrl}
    (hphase : s.phase = .urls c urls) (hstop : s.stopped = false) :
    ∃ s', Obedient cfg s' ∧ s'.phase = .cycle ∧ s'.stopped = false ∧
      s'.tracker = s.tracker ∧ s'.upcoming = s.upcoming ∧ s'.listings = s.listings := by
  induction urls generalizing s with
  | nil =>
    have hended := h.next .go
    rw [go_ends hphase] at hended
    exact ⟨_, hended, rfl, hstop, rfl, rfl, rfl⟩
  | cons url urls ih =>
    have hfailed := h.next .raises
    have hfail : step cfg s .raises = s.leaveUrl c urls := by
      show s.fail = _
      unfold Poster.fail
      rw [hphase]
    rw [hfail] at hfailed
    exact ih (s := s.leaveUrl c urls) hfailed rfl hstop

/-- A thread that is never caught sending has spaced cycles. -/
theorem Obedient.spaced {cycles : List Cycle} (h : Obedient cfg s) (hphase : s.phase = .cycle)
    (hupcoming : s.upcoming = cycles) (hstop : s.stopped = false) (htracker : s.tracker = {})
    (hslot : Slot cfg s.listings) : Spaced cycles := by
  induction cycles generalizing s with
  | nil => trivial
  | cons c rest ih =>
    have hstarted := h.next .go
    rw [go_starts hphase hupcoming hstop] at hstarted
    have hseen : ∀ id, (s.started c rest).seen id = true → id ∈ s.products.map (·.1) :=
      fun id hid => mem_of_blocks hid
    refine ⟨?_, ?_⟩
    · cases hurls : c.urls with
      | nil => trivial
      | cons url todo =>
        have hphase' : (s.started c rest).phase = .urls c (url :: todo) :=
          congrArg (Phase.urls c) hurls
        obtain ⟨s', hs'⟩ := hstarted.limited hphase' hstop htracker hslot hseen
        have hslot' : Slot cfg s'.listings := by
          rw [hs'.listings]
          exact hslot
        cases todo with
        | nil =>
          -- the only URL of the cycle: the next request is a cycle later
          have hended := hs'.obedient.next .go
          rw [go_ends hs'.phase] at hended
          obtain ⟨t, hdue, hclock⟩ := hs'.dues
          refine hended.covered rfl hs'.upcoming hs'.stopped hslot' ⟨t, hdue, ?_⟩
          show (s'.toPace.wait c.cycleInterval).clock = _
          rw [Pace.clock_wait hs'.stopped]
          omega
        | cons url' todo => exact hs'.obedient.opens hs'.phase hs'.stopped hslot' hs'.dues
    · obtain ⟨s', hob, hcycle, hstop', htracker', hupcoming', hlistings'⟩ :=
        hstarted.skips (c := c) rfl hstop
      refine ih hob hcycle hupcoming' hstop' (htracker'.trans htracker) ?_
      rw [hlistings']
      exact hslot

/-! ### A store without a free slot -/

/-- No URL is ever opened. -/
def Closed (cfg : Config) (s : Poster) : Prop :=
  ¬ Slot cfg s.listings ∧
    (s.phase = .cycle ∨ s.phase = .ended ∨ ∃ c todo, s.phase = .urls c todo)

theorem closed_step (a : Action) (h : Closed cfg s) : Closed cfg (step cfg s a) := by
  obtain ⟨hslot, hphase⟩ := h
  cases a with
  | stop => exact ⟨hslot, hphase⟩
  | elapse t => exact ⟨hslot, hphase⟩
  | go =>
    show Closed cfg (s.go cfg)
    unfold Poster.go
    rcases hphase with hcycle | hended | ⟨c, todo, hurls⟩
    · rw [hcycle]
      show Closed cfg s.startCycle
      unfold Poster.startCycle
      split
      · exact ⟨hslot, Or.inr (Or.inl rfl)⟩
      split
      · exact ⟨hslot, Or.inr (Or.inl rfl)⟩
      · exact ⟨hslot, Or.inr (Or.inr ⟨_, _, rfl⟩)⟩
    · rw [hended]
      exact ⟨hslot, Or.inr (Or.inl hended)⟩
    · rw [hurls]
      show Closed cfg (s.openUrl cfg c todo)
      cases todo with
      | nil => exact ⟨hslot, Or.inl rfl⟩
      | cons url todo =>
        rw [Poster.openUrl]
        split
        · exact ⟨hslot, Or.inl rfl⟩
        dsimp only
        split
        · exact ⟨hslot, Or.inr (Or.inr ⟨_, _, rfl⟩)⟩
        · next hopen => exact absurd hopen hslot
  | page page =>
    show Closed cfg (s.fetched (some page))
    rcases hphase with hphase | hphase | ⟨c, todo, hphase⟩ <;>
    · unfold Poster.fetched
      rw [hphase]
      exact ⟨hslot, by simp [hphase]⟩
  | lastPage =>
    show Closed cfg (s.fetched none)
    rcases hphase with hphase | hphase | ⟨c, todo, hphase⟩ <;>
    · unfold Poster.fetched
      rw [hphase]
      exact ⟨hslot, by simp [hphase]⟩
  | attempt a =>
    show Closed cfg (s.attempt cfg a)
    rcases hphase with hphase | hphase | ⟨c, todo, hphase⟩ <;>
    · unfold Poster.attempt
      rw [hphase]
      exact ⟨hslot, by simp [hphase]⟩
  | raises =>
    show Closed cfg s.fail
    unfold Poster.fail
    split
    · exact ⟨hslot, Or.inr (Or.inr ⟨_, _, rfl⟩)⟩
    · exact ⟨hslot, Or.inr (Or.inr ⟨_, _, rfl⟩)⟩
    · exact ⟨hslot, Or.inr (Or.inr ⟨_, _, rfl⟩)⟩
    · exact ⟨hslot, Or.inr (Or.inr ⟨_, _, rfl⟩)⟩
    · exact ⟨hslot, hphase⟩
    · exact ⟨hslot, hphase⟩
    · exact ⟨hslot, hphase⟩

/-! ### Exactly when -/

/-- Whoever sends is working on a URL. -/
theorem Sends.busy {a : Action} (h : Sends s a) :
    (∃ c todo minPrice router items, s.phase = .fetch c todo minPrice router items) ∨
      (∃ c todo router items, s.phase = .post c todo router items) ∨
        ∃ c todo router items item f, s.phase = .fallback c todo router items item f := by
  cases a with
  | page => exact Or.inl h
  | lastPage => exact Or.inl h
  | attempt => exact Or.inr h
  | go => exact h.elim
  | raises => exact h.elim
  | stop => exact h.elim
  | elapse => exact h.elim

theorem respects_of_inv (h : Inv s) (a : Action) : Respects s a := by
  intro hstop hsends
  have hsteady : Steady s := h.resolve_left (by rw [hstop]; exact nofun)
  rcases hsends.busy with
    ⟨_, _, _, _, _, hphase⟩ | ⟨_, _, _, _, hphase⟩ | ⟨_, _, _, _, _, _, hphase⟩
  · exact (hsteady.fetching hphase).1
  · exact (hsteady.posting hphase).1
  · exact (hsteady.fallingBack hphase).1

theorem respects_of_closed (h : Closed cfg s) (a : Action) : Respects s a := by
  intro _ hsends
  exfalso
  rcases h.2 with hphase | hphase | ⟨c, todo, hphase⟩ <;>
  · have hbusy := hsends.busy
    simp [hphase] at hbusy

/-- **The cooldown is respected**, whatever the thread is answered: by a poster exactly if no slot
is free or its cycles are spaced, by a cleaner always. -/
theorem cooldown_respected (cfg : Config) (products : List (String × DropshipProductStatus))
    (listings : List Listing) (cycles : List Cycle) (cleanerCycles : List CleanerCycle) :
    ((∀ actions, Along (step cfg) Respects (startPoster products listings cycles) actions) ↔
      ¬ Slot cfg listings ∨ Spaced cycles) ∧
    ∀ actions, Along Cleaner.step Cleaner.Respects { upcoming := cleanerCycles } actions := by
  refine ⟨⟨fun h => ?_, fun h => ?_⟩, Cleaner.respects cleanerCycles⟩
  · by_cases hslot : Slot cfg listings
    · exact Or.inr (Obedient.spaced h rfl rfl rfl rfl hslot)
    · exact Or.inl hslot
  · intro actions
    rcases h with hslot | hspaced
    · exact along_of_along (C := fun _ _ => True) (fun s a h _ => closed_step a h)
        (fun s a h _ => respects_of_closed h a) ⟨hslot, Or.inl rfl⟩
        (along_of_forall (fun _ _ => trivial) _ _)
    · refine along_of_along (C := fun _ _ => True) (fun s a h _ => inv_step a h)
        (fun s a h _ => respects_of_inv h a) ?_ (along_of_forall (fun _ _ => trivial) _ _)
      -- nothing is due at the start
      exact Or.inr ⟨hspaced, serverCooldown, fun _ => nofun, covered_of_le (Nat.le_refl _) _⟩

/-- Two URLs with the default delays. -/
def twoUrls : Cycle where
  itemDelay := seconds 3
  sourceDelay := seconds 1
  cycleInterval := seconds 300
  urls := [{}, {}]

/-- Five rate limits on the first URL, and the second is fetched a second later. -/
def fiveLimits : List Action :=
  [.go, .go, .page (["a", "b", "c", "d", "e"].map fun id => some (plainItem 0 id)), .lastPage]
    ++ List.replicate 5 (.attempt limited) ++ [.go, .page []]

theorem cooldown_ignored :
    ¬ Along (step { game := "new-world" }) Respects (startPoster [] [] [twoUrls]) fiveLimits := by
  intro h
  have hsends := h.2.2.2.2.2.2.2.2.2.2.1 rfl ⟨_, _, _, _, _, rfl⟩ _ rfl
  revert hsends
  decide

end Sda.Dropship
