/-
Sda/Dropship/CleanerFairness.lean

Which products of a source the cleaner comes to (services/dropship/cleaner.py).

A cycle takes the LISTED products in the order of `last_checked_at`.  A check that ends well saves
the time, and the product is the last of the next cycle; a check that fails saves nothing, and the
product stays where it is, in the end before all others.  Five rate limits or five server errors in
a row, or one maintenance answer, end the cycle.  So products that always fail can keep the cleaner
from all that lie behind them.

* `checked_within_two` — unless the failing products alone end a cycle, every other product is
  checked in one of two cycles;
* `starves` — five products that answer 500 hide a sixth for ever.
-/
import Sda.Dropship.Cleaner

namespace Sda.Dropship

/-! ### One check -/

/-- What `_check_single_product` tells the tracker, or raises: `_MaintenanceDetected`. -/
inductive Told
  | nothing | success | rateLimit | server | maintenance
  deriving DecidableEq, Repr

/-- What becomes of the row. -/
inductive RowEnd
  /-- Nothing is saved: the check failed, or what follows it raised. -/
  | untouched
  /-- `last_checked_at` is saved. -/
  | saved
  /-- The product is no longer LISTED. -/
  | left
  deriving DecidableEq, Repr

/-- **`_check_single_product`**: `after` is what its handlers leave of the row once the source has
answered, or says that the item is gone. -/
def checkSingleProduct (check : Check) (after : RowEnd) : Told × RowEnd :=
  match check with
  | .missing => (.nothing, .left)
  | .unreadable | .raises => (.nothing, .untouched)
  | .answered => (.success, after)
  | .failed maintenance e status =>
    match classifyApiError maintenance (.failure e status : ApiResult Unit) with
    | .maintenance => (.maintenance, .untouched)
    | .rateLimit => (.rateLimit, .untouched)
    | .server => (.server, .untouched)
    | .notFound | .auth => (.nothing, after)
    | .success | .validation | .unknown => (.nothing, .untouched)

/-- A handler of the tracker returned, or raised `TemporaryPauseRequired`: a new tracker begins and
the cycle is left. -/
def afterHandler (h : ErrorTracker × Handled) : ErrorTracker × Bool :=
  match h.2 with
  | .waits _ => (h.1, true)
  | .pause _ | .temporaryPause _ _ => ({}, false)

/-- The tracker after a check, and whether the cycle goes on. -/
def ErrorTracker.tell (t : ErrorTracker) : Told → ErrorTracker × Bool
  | .nothing => (t, true)
  | .success => (t.onSuccess, true)
  | .rateLimit => afterHandler (t.onRateLimit none)
  | .server => afterHandler t.onServerError
  | .maintenance => (t, false)

/-! ### The cycles -/

/-- A LISTED product. -/
structure Product where
  id : Nat
  lastChecked : Nat := 0
  deriving DecidableEq, Repr

/-- The products of a source, in the order of the query, and the cleaner's tracker; `visited` are
the products that were checked in the last cycle. -/
structure Source where
  listed : List Product
  tracker : ErrorTracker := {}
  clock : Nat := 0
  visited : List Nat := []
  deriving DecidableEq, Repr

/-- The row after a check: a saved time puts it behind all others. -/
def Source.settle (s : Source) (p : Product) : RowEnd → List Product
  | .untouched => s.listed
  | .saved => s.listed.filter (fun q => q.id != p.id) ++ [{ p with lastChecked := s.clock + 1 }]
  | .left => s.listed.filter fun q => q.id != p.id

/-- One check. -/
def Source.visit (s : Source) (p : Product) (a : Told × RowEnd) : Source :=
  { listed := s.settle p a.2
    tracker := (s.tracker.tell a.1).1
    clock := s.clock + 1
    visited := p.id :: s.visited }

/-- The loop over the products that were listed at the start. -/
def Source.loop (ask : Nat → Told × RowEnd) : List Product → Source → Source
  | [], s => s
  | p :: todo, s =>
    if (s.tracker.tell (ask p.id).1).2 then (s.visit p (ask p.id)).loop ask todo
    else s.visit p (ask p.id)

/-- **A cycle of `cleaner_loop`** on these answers. -/
def Source.cycle (s : Source) (ask : Nat → Check × RowEnd) : Source :=
  Source.loop (fun i => checkSingleProduct (ask i).1 (ask i).2) s.listed { s with visited := [] }

/-- The source after `k` cycles; `ask k i` is the answer about the product `i` in cycle `k`. -/
def Source.after (s : Source) (ask : Nat → Nat → Check × RowEnd) : Nat → Source
  | 0 => s
  | k + 1 => (s.after ask k).cycle (ask k)

/-! ### The property -/

/-- The outcome of the check of a product in a cycle. -/
def outcome (ask : Nat → Nat → Check × RowEnd) (k i : Nat) : Told × RowEnd :=
  checkSingleProduct (ask k i).1 (ask k i).2

/-- The checks of these products always fail, those of all others never do. -/
def FailExactly (failing : Nat → Bool) (ask : Nat → Nat → Check × RowEnd) : Prop :=
  ∀ k i, (outcome ask k i).2 = .untouched ↔ failing i = true

/-- Every product whose check would not fail is checked within so many cycles. -/
def CheckedWithin (s : Source) (ask : Nat → Nat → Check × RowEnd) (failing : Nat → Bool)
    (bound : Nat) : Prop :=
  ∀ k, ∀ p ∈ (s.after ask k).listed, failing p.id = false →
    ∃ j < bound, p.id ∈ (s.after ask (k + j + 1)).visited

/-- A tracker that is told all this does not end the cycle. -/
def ErrorTracker.Passes : ErrorTracker → List Told → Prop
  | _, [] => True
  | t, told :: rest => (t.tell told).2 = true ∧ (t.tell told).1.Passes rest

/-- In no cycle do the failing products, in the order of their last check, end it by themselves. -/
def Passable (s : Source) (ask : Nat → Nat → Check × RowEnd) (failing : Nat → Bool) : Prop :=
  ∀ k, ErrorTracker.Passes {}
    ((s.listed.filter fun p => failing p.id).map fun p => (outcome ask k p.id).1)

/-! ### The tracker -/

variable {t t' : ErrorTracker} {told : Told}

/-- As many errors in a row, or fewer. -/
structure ErrorTracker.Calmer (t t' : ErrorTracker) : Prop where
  rateLimits : t.consecutive429 ≤ t'.consecutive429
  servers : t.consecutiveServerErrors ≤ t'.consecutiveServerErrors

theorem calmer_refl (t : ErrorTracker) : t.Calmer t := ⟨le_refl _, le_refl _⟩

/-- After a success no errors are in a row. -/
theorem onSuccess_calmer (t t' : ErrorTracker) : t.onSuccess.Calmer t' :=
  ⟨Nat.zero_le _, Nat.zero_le _⟩

theorem tell_rateLimit (t : ErrorTracker) :
    t.tell .rateLimit =
      if maxConsecutive429 ≤ t.consecutive429 + 1 then ({}, false)
      else ((t.onRateLimit none).1, true) := by
  show afterHandler (t.onRateLimit none) = _
  unfold afterHandler ErrorTracker.onRateLimit
  dsimp only
  split
  · next h =>
    split at h
    · cases h
    · next hfew => rw [if_neg hfew]
  · next h => split at h <;> cases h
  · next h =>
    split at h
    · next hmany => rw [if_pos hmany]
    · cases h

theorem tell_server (t : ErrorTracker) :
    t.tell .server =
      if maxServerRetries ≤ t.consecutiveServerErrors + 1 then ({}, false)
      else (t.onServerError.1, true) := by
  show afterHandler t.onServerError = _
  unfold afterHandler ErrorTracker.onServerError
  dsimp only
  split
  · next h =>
    split at h
    · cases h
    · next hfew => rw [if_neg hfew]
  · next h => split at h <;> cases h
  · next h =>
    split at h
    · next hmany => rw [if_pos hmany]
    · cases h

/-- **A calmer tracker** passes what the other one passes, and stays calmer. -/
theorem ErrorTracker.Calmer.tell (h : t.Calmer t') (hgo : (t'.tell told).2 = true) :
    (t.tell told).2 = true ∧ (t.tell told).1.Calmer (t'.tell told).1 := by
  obtain ⟨hrate, hserver⟩ := h
  cases told with
  | nothing => exact ⟨rfl, hrate, hserver⟩
  | success => exact ⟨rfl, onSuccess_calmer _ _⟩
  | maintenance => cases hgo
  | rateLimit =>
    rw [tell_rateLimit] at hgo ⊢
    rw [tell_rateLimit]
    by_cases hmany : maxConsecutive429 ≤ t'.consecutive429 + 1
    · rw [if_pos hmany] at hgo
      cases hgo
    · have hfew : ¬ maxConsecutive429 ≤ t.consecutive429 + 1 := by omega
      rw [if_neg hmany, if_neg hfew]
      exact ⟨rfl, Nat.succ_le_succ hrate, le_refl _⟩
  | server =>
    rw [tell_server] at hgo ⊢
    rw [tell_server]
    by_cases hmany : maxServerRetries ≤ t'.consecutiveServerErrors + 1
    · rw [if_pos hmany] at hgo
      cases hgo
    · have hfew : ¬ maxServerRetries ≤ t.consecutiveServerErrors + 1 := by omega
      rw [if_neg hmany, if_neg hfew]
      exact ⟨rfl, le_refl _, Nat.succ_le_succ hserver⟩

/-- What ends a cycle, maintenance apart, leaves a new tracker. -/
theorem tell_ends (h : (t.tell told).2 = false) (hnot : told ≠ .maintenance) :
    (t.tell told).1 = {} := by
  cases told with
  | nothing => cases h
  | success => cases h
  | maintenance => exact absurd rfl hnot
  | rateLimit =>
    rw [tell_rateLimit] at h ⊢
    split at h
    · next hmany => rw [if_pos hmany]
    · cases h
  | server =>
    rw [tell_server] at h ⊢
    split at h
    · next hmany => rw [if_pos hmany]
    · cases h

/-- Where a tracker passes there was no maintenance. -/
theorem ErrorTracker.Passes.not_maintenance {words : List Told} (h : t.Passes words) :
    Told.maintenance ∉ words := by
  induction words generalizing t with
  | nil => exact List.not_mem_nil
  | cons told rest ih =>
    intro hmem
    rcases List.mem_cons.mp hmem with rfl | hrest
    · cases h.1
    · exact ih h.2 hrest

/-! ### One cycle -/

variable {s : Source} {p q : Product} {todo : List Product} {failing : Nat → Bool}
  {ask : Nat → Told × RowEnd}

/-- A check of a product that touches its row goes on, and calms the tracker. -/
theorem calm_of_touched {check : Check} {after : RowEnd}
    (h : (checkSingleProduct check after).2 ≠ .untouched) :
    (checkSingleProduct check after).1 = .nothing ∨
      (checkSingleProduct check after).1 = .success := by
  cases check with
  | missing => exact Or.inl rfl
  | unreadable => exact absurd rfl h
  | raises => exact absurd rfl h
  | answered => exact Or.inr rfl
  | failed maintenance e status =>
    unfold checkSingleProduct at h ⊢
    dsimp only at h ⊢
    split at h
    all_goals first
      | exact absurd rfl h
      | exact Or.inl rfl

/-- What a product that does not fail tells keeps the tracker calmer, and goes on. -/
theorem ErrorTracker.Calmer.stays (h : t.Calmer t') (htold : told = .nothing ∨ told = .success) :
    (t.tell told).2 = true ∧ (t.tell told).1.Calmer t' := by
  rcases htold with rfl | rfl
  · exact ⟨rfl, h⟩
  · exact ⟨rfl, onSuccess_calmer _ _⟩

/-- A row that is not the product's stays. -/
theorem mem_settle (h : q ∈ s.listed) (hne : q.id ≠ p.id) (r : RowEnd) : q ∈ s.settle p r := by
  have hfilter : q ∈ s.listed.filter fun q => q.id != p.id :=
    List.mem_filter.mpr ⟨h, bne_iff_ne.mpr hne⟩
  cases r with
  | untouched => exact h
  | saved => exact List.mem_append_left _ hfilter
  | left => exact hfilter

/-- The failing rows stay where they are. -/
theorem filter_settle (s : Source) (r : RowEnd) (h : r = .untouched ↔ failing p.id = true) :
    (s.settle p r).filter (fun q : Product => failing q.id) =
      s.listed.filter fun q => failing q.id := by
  have hkeep : r ≠ .untouched → (s.listed.filter fun q => q.id != p.id).filter
      (fun q => failing q.id) = s.listed.filter fun q => failing q.id := by
    intro hr
    rw [List.filter_filter]
    apply List.filter_congr
    intro q _
    by_cases hq : q.id = p.id
    · have hgood : ¬ failing p.id = true := fun hf => hr (h.mpr hf)
      simp [hq, hgood]
    · simp [hq]
  cases r with
  | untouched => rfl
  | left => exact hkeep nofun
  | saved =>
    have hgood : ¬ failing p.id = true := fun hf => by cases h.mpr hf
    show ((s.listed.filter fun q : Product => q.id != p.id) ++
      [{ p with lastChecked := s.clock + 1 }]).filter (fun q : Product => failing q.id) = _
    rw [List.filter_append, hkeep nofun]
    simp [hgood]

/-- What was visited stays visited. -/
theorem visited_loop (todo : List Product) (s : Source) :
    s.visited ⊆ (s.loop ask todo).visited := by
  induction todo generalizing s with
  | nil => exact List.Subset.refl _
  | cons p todo ih =>
    rw [Source.loop]
    split
    · exact List.Subset.trans (List.subset_cons_self p.id _) (ih (s.visit p (ask p.id)))
    · exact List.subset_cons_self _ _

/-- A row that is not visited stays. -/
theorem mem_loop (hq : q ∈ s.listed) (hnot : q.id ∉ (s.loop ask todo).visited) :
    q ∈ (s.loop ask todo).listed := by
  induction todo generalizing s with
  | nil => exact hq
  | cons p todo ih =>
    have hne : q.id ≠ p.id := by
      rintro heq
      apply hnot
      rw [heq, Source.loop]
      split
      · exact visited_loop todo _ (List.mem_cons_self ..)
      · exact List.mem_cons_self ..
    rw [Source.loop] at hnot ⊢
    split at hnot
    · next hgo =>
      rw [if_pos hgo]
      exact ih (mem_settle hq hne _) hnot
    · next hend =>
      rw [if_neg hend]
      exact mem_settle hq hne _

theorem filter_loop (hfail : ∀ i, (ask i).2 = .untouched ↔ failing i = true)
    (todo : List Product) (s : Source) :
    (s.loop ask todo).listed.filter (fun q => failing q.id) =
      s.listed.filter fun q => failing q.id := by
  induction todo generalizing s with
  | nil => rfl
  | cons p todo ih =>
    have hone : (s.visit p (ask p.id)).listed.filter (fun q => failing q.id) =
        s.listed.filter fun q => failing q.id :=
      filter_settle s (ask p.id).2 (hfail p.id)
    rw [Source.loop]
    split
    · rw [ih, hone]
    · exact hone

/-- **A cycle that the failing products do not end** visits all. -/
theorem loop_visits (hcalm : s.tracker.Calmer t)
    (hgood : ∀ i, failing i = false → (ask i).1 = .nothing ∨ (ask i).1 = .success)
    (hpass : t.Passes ((todo.filter fun p => failing p.id).map fun p => (ask p.id).1))
    (hp : p ∈ todo) : p.id ∈ (s.loop ask todo).visited := by
  induction todo generalizing s t with
  | nil => cases hp
  | cons q todo ih =>
    -- whatever `q` does, the loop goes on under a tracker that passes the rest
    obtain ⟨hgo, t', hcalm', hpass'⟩ : (s.tracker.tell (ask q.id).1).2 = true ∧
        ∃ t' : ErrorTracker, (s.tracker.tell (ask q.id).1).1.Calmer t' ∧
          t'.Passes ((todo.filter fun p => failing p.id).map fun p => (ask p.id).1) := by
      by_cases hq : failing q.id = true
      · rw [List.filter_cons_of_pos (p := fun p : Product => failing p.id) hq, List.map_cons] at hpass
        obtain ⟨hgo, hcalmer⟩ := hcalm.tell hpass.1
        exact ⟨hgo, _, hcalmer, hpass.2⟩
      · rw [List.filter_cons_of_neg (p := fun p : Product => failing p.id) hq] at hpass
        rw [Bool.not_eq_true] at hq
        obtain ⟨hgo, hcalmer⟩ := hcalm.stays (hgood q.id hq)
        exact ⟨hgo, t, hcalmer, hpass⟩
    rw [Source.loop, if_pos hgo]
    rcases List.mem_cons.mp hp with rfl | htodo
    · exact visited_loop todo _ (List.mem_cons_self ..)
    · exact ih hcalm' hpass' htodo

/-- **A cycle without maintenance** visits all, or ends with a new tracker. -/
theorem loop_visits_or_new (hnone : ∀ p ∈ todo, (ask p.id).1 ≠ .maintenance) :
    (∀ p ∈ todo, p.id ∈ (s.loop ask todo).visited) ∨ (s.loop ask todo).tracker = {} := by
  induction todo generalizing s with
  | nil => exact Or.inl nofun
  | cons q todo ih =>
    rw [Source.loop]
    by_cases hgo : (s.tracker.tell (ask q.id).1).2 = true
    · rw [if_pos hgo]
      refine (ih fun p hp => hnone p (List.mem_cons_of_mem _ hp)).imp_left fun hall p hp => ?_
      rcases List.mem_cons.mp hp with rfl | htodo
      · exact visited_loop todo _ (List.mem_cons_self ..)
      · exact hall p htodo
    · rw [if_neg hgo]
      rw [Bool.not_eq_true] at hgo
      exact Or.inr (tell_ends hgo (hnone q (List.mem_cons_self ..)))

/-! ### Runs of cycles -/

section Runs

variable {answers : Nat → Nat → Check × RowEnd}

/-- The failing products keep their places. -/
theorem filter_after (hfail : FailExactly failing answers) (s : Source) (k : Nat) :
    (s.after answers k).listed.filter (fun q => failing q.id) =
      s.listed.filter fun q => failing q.id := by
  induction k with
  | zero => rfl
  | succ k ih => exact (filter_loop (hfail k) _ _).trans ih

/-- What the products that do not fail tell. -/
theorem FailExactly.calm (hfail : FailExactly failing answers) (k i : Nat)
    (hi : failing i = false) :
    (outcome answers k i).1 = .nothing ∨ (outcome answers k i).1 = .success := by
  apply calm_of_touched
  intro huntouched
  rw [(hfail k i).mp huntouched] at hi
  cases hi

/-- In a run that can be passed no product is answered with maintenance. -/
theorem Passable.not_maintenance (hpass : Passable s answers failing)
    (hfail : FailExactly failing answers) (k : Nat) (p : Product)
    (hp : p ∈ (s.after answers k).listed) : (outcome answers k p.id).1 ≠ .maintenance := by
  intro hmaintenance
  by_cases hf : failing p.id = true
  · have hmem : p ∈ s.listed.filter fun q => failing q.id := by
      rw [← filter_after hfail s k]
      exact List.mem_filter.mpr ⟨hp, hf⟩
    apply (hpass k).not_maintenance
    rw [← hmaintenance]
    exact List.mem_map.mpr ⟨p, hmem, rfl⟩
  · rw [Bool.not_eq_true] at hf
    rcases hfail.calm k p.id hf with h | h
    · rw [hmaintenance] at h
      cases h
    · rw [hmaintenance] at h
      cases h

/-- **No product is starved.**  Where the failing products do not end a cycle by themselves, every
other product is checked in this cycle or in the next. -/
theorem checked_within_two (s : Source) (answers : Nat → Nat → Check × RowEnd)
    (failing : Nat → Bool) (hfail : FailExactly failing answers)
    (hpass : Passable s answers failing) : CheckedWithin s answers failing 2 := by
  intro k p hp _
  by_cases hvisited : p.id ∈ (s.after answers (k + 1)).visited
  · exact ⟨0, by decide, hvisited⟩
  · -- the first cycle ended early, so the second begins with a new tracker
    have hnew : (s.after answers (k + 1)).tracker = {} :=
      (loop_visits_or_new (hpass.not_maintenance hfail k)).resolve_left fun hall =>
        hvisited (hall p hp)
    have hstill : p ∈ (s.after answers (k + 1)).listed := mem_loop hp hvisited
    refine ⟨1, by decide, ?_⟩
    refine loop_visits (t := {}) ?_ (hfail.calm (k + 1)) ?_ hstill
    · show (s.after answers (k + 1)).tracker.Calmer {}
      rw [hnew]
      exact calmer_refl _
    · rw [filter_after hfail s (k + 1)]
      exact hpass (k + 1)

end Runs

section Inputs

/-- The source answers 500 for five products and finds the sixth. -/
def serverErrors : Nat → Nat → Check × RowEnd := fun _ i =>
  if i < 5 then (.failed false ⟨.serverError, "HTTP 500", some 500, true, {}, ""⟩ (some 500), .saved)
  else (.answered, .saved)

/-- Six products, never checked yet. -/
def sixProducts : Source := { listed := (List.range 6).map fun i => { id := i } }

theorem failExactly_serverErrors : FailExactly (fun i => decide (i < 5)) serverErrors := by
  intro k i
  by_cases hi : i < 5
  · simp only [outcome, serverErrors, if_pos hi, decide_eq_true_eq]
    exact iff_of_true rfl hi
  · simp only [outcome, serverErrors, if_neg hi, decide_eq_true_eq]
    exact iff_of_false nofun hi

/-- With four failing products the others are reached. -/
theorem checked_within_two_fourProducts :
    CheckedWithin { listed := (List.range 7).tail.map fun i => { id := i } } serverErrors
      (fun i => decide (i < 5)) 2 := by
  apply checked_within_two _ _ _ failExactly_serverErrors
  intro k
  show ErrorTracker.Passes {} [.server, .server, .server, .server]
  exact ⟨rfl, rfl, rfl, rfl, trivial⟩

/-- A cycle over the six products ends at the fifth. -/
theorem cycle_sixProducts {s : Source} (hlisted : s.listed = sixProducts.listed)
    (htracker : s.tracker = {}) (k : Nat) :
    (s.cycle (serverErrors k)).listed = sixProducts.listed ∧
      (s.cycle (serverErrors k)).tracker = {} ∧
        (s.cycle (serverErrors k)).visited = [4, 3, 2, 1, 0] := by
  obtain ⟨listed, tracker, clock, visited⟩ := s
  subst hlisted
  subst htracker
  exact ⟨rfl, rfl, rfl⟩

/-- **The sixth product is never checked.** -/
theorem starves :
    ¬ ∀ (s : Source) (answers : Nat → Nat → Check × RowEnd) (failing : Nat → Bool),
      FailExactly failing answers → ∃ bound, CheckedWithin s answers failing bound := by
  intro h
  obtain ⟨bound, hbound⟩ := h sixProducts serverErrors _ failExactly_serverErrors
  have hstays : ∀ k, (sixProducts.after serverErrors k).listed = sixProducts.listed ∧
      (sixProducts.after serverErrors k).tracker = {} := by
    intro k
    induction k with
    | zero => exact ⟨rfl, rfl⟩
    | succ k ih =>
      obtain ⟨hlisted, htracker, -⟩ := cycle_sixProducts ih.1 ih.2 k
      exact ⟨hlisted, htracker⟩
  obtain ⟨j, -, hvisited⟩ := hbound 0 { id := 5 } (by decide) (by decide)
  obtain ⟨hlisted, htracker⟩ := hstays (0 + j)
  obtain ⟨-, -, hfive⟩ := cycle_sixProducts hlisted htracker (0 + j)
  have hvisited : 5 ∈ (Source.cycle (sixProducts.after serverErrors (0 + j))
    (serverErrors (0 + j))).visited := hvisited
  rw [hfive] at hvisited
  exact absurd hvisited (by decide)

end Inputs

end Sda.Dropship
