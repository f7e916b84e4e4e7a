/-
Sda/Lib/ForkJoinRuns.lean

The runs of the threads of `Sda.Lib.ForkJoin`, whatever the schedule.

* `eventually_finished` — when the main thread raises nothing and ends every queue, every
  schedule comes to an end with all workers stopped, crashes of workers included;
* `starved_over` — when the producer raises before it ends a queue, the main thread ends
  only if every worker has crashed.
-/
import Mathlib.Algebra.Order.BigOperators.Group.List
import Mathlib.Algebra.Order.Ring.Nat
import Mathlib.Data.List.Count
import Mathlib.Data.Prod.Lex
import Sda.Lib.Eventually
import Sda.Lib.ForkJoin

namespace Sda.ForkJoin

section Runs

variable {κ v A ε L σ : Type} [DecidableEq κ]
variable {p : Plan κ v A ε L σ} {s s' : State κ v A ε L σ} {k : κ}

/-! ### Every run ends -/

/-- Does the message go to this queue? -/
def Send.targets (k : κ) : Send κ v A → Bool
  | .act _ => false
  | .put j _ => j == k
  | .close j => j == k

/-- The workers still to be submitted. -/
def Main.toStart : Main κ v A ε → List κ
  | .submitting ks => ks
  | _ => []

/-- The messages still to be sent. -/
def Main.toSend (p : Plan κ v A ε L σ) : Main κ v A ε → List (Send κ v A)
  | .submitting _ => p.produce.todo
  | .sending ms => ms
  | _ => []

/-- The actions of the main thread on their own. -/
def Main.todo : Main κ v A ε → List A
  | .recovering todo _ _ => todo
  | .closing todo _ => todo
  | _ => []

def Worker.todo : Worker A ε L → List A
  | .running todo _ => todo
  | _ => []

/-- How far the main thread is from its end. -/
def Main.rank (p : Plan κ v A ε L σ) : Main κ v A ε → Nat
  | .submitting ks => ks.length + p.produce.todo.length + 2 * p.keys.length + 5
  | .sending ms => ms.length + 2 * p.keys.length + 4
  | .recovering _ _ left => 2 * left.length + 4
  | .joining left => 2 * left.length + 3
  | .leaving _ => 2
  | .closing _ _ => 1
  | .finished _ => 0

/-- What is still before the worker of `k`: its entries, those to come, its start and its
stop. -/
def load (p : Plan κ v A ε L σ) (s : State κ v A ε L σ) (k : κ) : Nat :=
  (s.queue k).length + (s.main.toSend p).countP (Send.targets k) + s.main.toStart.count k +
    if (s.worker k).halted then 0 else 1

/-- The quantity that every step lowers: the waits still before the threads, and then the
actions before the next wait. -/
def variant (p : Plan κ v A ε L σ) (s : State κ v A ε L σ) : Nat × Nat :=
  ((p.keys.map (load p s)).sum + s.main.rank p,
    (p.keys.map fun k => (s.worker k).todo.length).sum + s.main.todo.length)

/-- The order of the variant. -/
abbrev Lower : Nat × Nat → Nat × Nat → Prop :=
  Prod.Lex (· < ·) (· < ·)

/-- A step of the main thread that adds to no load. -/
theorem lower_of_rank (hload : ∀ k, load p s' k ≤ load p s k)
    (hrank : s'.main.rank p < s.main.rank p) : Lower (variant p s') (variant p s) := by
  have hsum := List.sum_le_sum fun k (_ : k ∈ p.keys) => hload k
  exact Prod.Lex.left _ _ (by omega)

/-- A step of the main thread past the producer. -/
theorem lower_of_idle {m : Main κ v A ε} (hsend : m.toSend p = []) (hstart : m.toStart = [])
    (hrank : m.rank p < s.main.rank p) :
    Lower (variant p { s with main := m }) (variant p s) := by
  apply lower_of_rank _ hrank
  intro k
  simp only [load, hsend, hstart, List.countP_nil, List.count_nil]
  omega

/-- An action of the main thread. -/
theorem lower_of_main_act {m m' : Main κ v A ε} (shared : σ) (h : s.main = m)
    (hsend : m'.toSend p = m.toSend p) (hstart : m'.toStart = m.toStart)
    (hrank : m'.rank p = m.rank p) (htodo : m'.todo.length < m.todo.length) :
    Lower (variant p { s with shared := shared, main := m' }) (variant p s) := by
  have hload : load p { s with shared := shared, main := m' } = load p s := by
    funext k
    simp only [load, h, hsend, hstart]
  simp only [variant, hload, h, hrank]
  exact Prod.Lex.right _ (by omega)

theorem load_send (m : Send κ v A) (ms : List (Send κ v A)) (h : s.main = .sending (m :: ms))
    (k : κ) : load p { deliver p s m with main := .sending ms } k = load p s k := by
  cases m with
  | act a => simp [load, h, deliver, Main.toSend, Main.toStart, Send.targets]
  | put j _ | close j =>
    by_cases hj : j = k
    · subst hj
      simp [load, h, deliver, Main.toSend, Main.toStart, Send.targets]
      omega
    · have hne : k ≠ j := fun hkj => hj hkj.symm
      simp [load, h, deliver, Main.toSend, Main.toStart, Send.targets, hj, hne]

/-- A worker is counted once, before its submission or after it. -/
theorem load_submit {ks : List κ} {w : Worker A ε L} (h : s.main = .submitting (k :: ks))
    (j : κ) : load p { setWorker s k w with main := .submitting ks } j ≤ load p s j := by
  by_cases hj : k = j
  · subst hj
    simp only [load, h, setWorker, Main.toSend, Main.toStart, Function.update_self,
      List.count_cons_self]
    split <;> omega
  · have hne : j ≠ k := fun hjk => hj hjk.symm
    simp [load, h, setWorker, Main.toSend, Main.toStart, hne, hj]

theorem MainMove.lower (h : MainMove p s s') : Lower (variant p s') (variant p s) := by
  cases h with
  | submitted h =>
    apply lower_of_rank
    · intro k
      simp [load, h, Main.toSend, Main.toStart]
    · simp only [h, Main.rank, List.length_nil]
      omega
  | submit h hk =>
    apply lower_of_rank (load_submit h)
    simp [h, Main.rank]
  | send h =>
    apply lower_of_rank fun k => (load_send _ _ h k).le
    simp [h, Main.rank]
  | recoverAct h | closeAct h => exact lower_of_main_act _ h rfl rfl rfl (Nat.lt_succ_self _)
  | submitRaises h | produced h | produceRaises h | joined h | recovered h | recoverRaises h
  | left h | leftRaising h | closed h =>
    exact lower_of_idle rfl rfl (by simp only [h, Main.rank]; omega)

theorem JoinMove.lower (h : JoinMove p s k s') : Lower (variant p s') (variant p s) := by
  cases h with
  | returned h hk | crashed h hk =>
    have hlen := List.length_erase_of_mem hk
    have hpos := List.length_pos_of_mem hk
    exact lower_of_idle rfl rfl (by simp only [h, Main.rank]; omega)

/-- A worker that stops or takes from its queue. -/
theorem lower_of_load {w : Worker A ε L} {queue : κ → List (Option v)} (hk : k ∈ p.keys)
    (hrun : (s.worker k).halted = false) (hqueue : ∀ j, j ≠ k → queue j = s.queue j)
    (hlt : (queue k).length + (if w.halted then 0 else 1) < (s.queue k).length + 1) :
    Lower (variant p { setWorker s k w with queue := queue }) (variant p s) := by
  have hother : ∀ j, j ≠ k → load p { setWorker s k w with queue := queue } j = load p s j := by
    intro j hj
    simp only [load, setWorker, hqueue j hj, Function.update_of_ne hj]
  have hself : load p { setWorker s k w with queue := queue } k < load p s k := by
    simp only [load, setWorker, Function.update_self, hrun]
    simp only [Bool.false_eq_true, ↓reduceIte]
    omega
  have hle : ∀ j, load p { setWorker s k w with queue := queue } j ≤ load p s j := by
    intro j
    by_cases hj : j = k
    · rw [hj]
      exact hself.le
    · exact (hother j hj).le
  have hsum := List.sum_lt_sum _ _ (fun j _ => hle j) ⟨k, hk, hself⟩
  exact Prod.Lex.left _ _ (Nat.add_lt_add_right hsum _)

/-- An action of a worker. -/
theorem lower_of_worker_act {a : A} {todo : List A} {next : Except ε (Option L)} (shared : σ)
    (hk : k ∈ p.keys) (h : s.worker k = .running (a :: todo) next) :
    Lower (variant p { setWorker s k (.running todo next) with shared := shared })
      (variant p s) := by
  have hload : load p { setWorker s k (.running todo next) with shared := shared } = load p s := by
    funext j
    by_cases hj : j = k
    · subst hj
      simp [load, setWorker, h, Worker.halted]
    · simp [load, setWorker, hj]
  have hle : ∀ j, (Function.update s.worker k (.running todo next) j).todo.length ≤
      (s.worker j).todo.length := by
    intro j
    by_cases hj : j = k
    · subst hj
      simp [h, Worker.todo]
    · simp [hj]
  have hlt : (Function.update s.worker k (.running todo next) k).todo.length <
      (s.worker k).todo.length := by
    simp [h, Worker.todo]
  have hsum := List.sum_lt_sum _ _ (fun j _ => hle j) ⟨k, hk, hlt⟩
  simp only [variant, hload]
  exact Prod.Lex.right _ (Nat.add_lt_add_right hsum _)

theorem WorkerMove.lower (h : WorkerMove p s k s') (hk : k ∈ p.keys) :
    Lower (variant p s') (variant p s) := by
  cases h with
  | act h => exact lower_of_worker_act _ hk h
  | raise h | returns h =>
    apply lower_of_load hk (by rw [h]; rfl) fun _ _ => rfl
    simp [Worker.halted]
  | take h hq | last h hq =>
    apply lower_of_load hk (by rw [h]; rfl)
    · intro j hj
      exact Function.update_of_ne hj _ _
    · simp [hq, Worker.halted]

/-- Every step lowers the variant, if only workers of the plan are there. -/
theorem step_lower {e : Event κ} (hknown : ∀ k, s.worker k ≠ .absent → k ∈ p.keys)
    (h : step p s e = some s') : Lower (variant p s') (variant p s) := by
  cases e with
  | main => exact (mainMove_of_step h).lower
  | join k => exact (joinMove_of_step h).lower
  | worker k =>
    have hmove := workerMove_of_step h
    apply hmove.lower (hknown k _)
    intro habsent
    cases hmove with
    | act hw | raise hw | returns hw | take hw | last hw =>
      rw [habsent] at hw
      cases hw

/-! ### Every run ends well -/

/-- The shared state after some actions. -/
def actAll (p : Plan κ v A ε L σ) (todo : List A) (shared : σ) : σ :=
  todo.foldl (fun shared a => p.act a shared) shared

/-- The worker waits for its queue, now or after its actions. -/
def Worker.waits : Worker A ε L → Bool
  | .running _ next => next.toOption.join.isSome
  | _ => false

/-- The main thread raises nothing and ends every queue; `Q` holds after its last
actions. -/
structure Plan.Sound (p : Plan κ v A ε L σ) (Q : σ → Prop) : Prop where
  submit : ∀ k ∈ p.keys, p.submit k = .ok ()
  produce : p.produce.result = .ok ()
  close : ∀ k ∈ p.keys, Send.close k ∈ p.produce.todo
  recover : ∀ k shared, (p.recover k shared).result = .ok ()
  after : ∀ shared, (p.after shared).result = .ok ()
  reaches : ∀ shared, Q (actAll p (p.after shared).todo shared)

/-- Everything has come to an end. -/
structure Finished (p : Plan κ v A ε L σ) (Q : σ → Prop) (s : State κ v A ε L σ) : Prop where
  main : s.main = .finished (.ok ())
  ended : ∀ k ∈ p.keys, s.ended k = true
  stopped : ∀ k ∈ p.keys, ∃ r, s.worker k = .stopped r
  shared : Q s.shared

/-- No worker is between its start and its stop. -/
def Calm (s : State κ v A ε L σ) : Prop :=
  ∀ k, (s.worker k).halted = true

/-- What is known of the main thread when it raises nothing. -/
def MainGood (p : Plan κ v A ε L σ) (Q : σ → Prop) (s : State κ v A ε L σ) : Prop :=
  match s.main with
  | .submitting ks => ks ⊆ p.keys
  | .sending _ => True
  | .joining left => left ⊆ p.keys
  | .recovering _ r left => r = .ok () ∧ left ⊆ p.keys
  | .leaving r => r = .ok ()
  | .closing todo r => r = .ok () ∧ Calm s ∧ Q (actAll p todo s.shared)
  | .finished r => r = .ok () ∧ Calm s ∧ Q s.shared

/-- The invariant of the runs that end well: the end of a queue is in it or to come as
long as somebody will wait for it. -/
structure Good (p : Plan κ v A ε L σ) (Q : σ → Prop) (s : State κ v A ε L σ) : Prop where
  known : ∀ k, s.worker k ≠ .absent → k ∈ p.keys
  started : ∀ k ∈ p.keys, s.worker k = .absent → k ∈ s.main.toStart
  ended : ∀ k ∈ p.keys, s.ended k = true ∨ Send.close k ∈ s.main.toSend p
  fed : ∀ k, (s.worker k).waits = true → none ∈ s.queue k ∨ Send.close k ∈ s.main.toSend p
  main : MainGood p Q s

section Good

variable {Q : σ → Prop}

omit [DecidableEq κ] in
theorem good_opening (hsound : p.Sound Q) (shared : σ) : Good p Q (opening p shared) where
  known k h := absurd rfl h
  started k hk _ := hk
  ended k hk := .inr (hsound.close k hk)
  fed k h := by simp [opening, Worker.waits] at h
  main := List.Subset.refl _

omit [DecidableEq κ] in
theorem good_skipping (hsound : p.Sound Q) (hkeys : p.keys = []) (shared : σ) :
    Good p Q (skipping p shared) where
  known k h := absurd rfl h
  started k hk := by simp [hkeys] at hk
  ended k hk := by simp [hkeys] at hk
  fed k h := by simp [skipping, Worker.waits] at h
  main := ⟨hsound.after shared, fun _ => rfl, hsound.reaches shared⟩

omit [DecidableEq κ] in
/-- The main thread goes on without touching the queues or the workers. -/
theorem Good.idle (hgood : Good p Q s) {m : Main κ v A ε} (m' : Main κ v A ε) (shared : σ)
    (h : s.main = m) (hsend : m'.toSend p = m.toSend p) (hstart : m'.toStart = m.toStart)
    (hmain : MainGood p Q { s with shared := shared, main := m' }) :
    Good p Q { s with shared := shared, main := m' } where
  known := hgood.known
  started k hk habsent := by
    rw [hstart, ← h]
    exact hgood.started k hk habsent
  ended k hk := by
    rw [hsend, ← h]
    exact hgood.ended k hk
  fed k hw := by
    rw [hsend, ← h]
    exact hgood.fed k hw
  main := hmain

theorem Good.submit (hgood : Good p Q s) (hsound : p.Sound Q) {ks : List κ} {w : Worker A ε L}
    (h : s.main = .submitting (k :: ks)) (hw : w ≠ .absent) :
    Good p Q { setWorker s k w with main := .submitting ks } := by
  have hmain := hgood.main
  rw [MainGood, h] at hmain
  have hk : k ∈ p.keys := hmain List.mem_cons_self
  constructor
  case known =>
    intro j hj
    by_cases hjk : j = k
    · exact hjk ▸ hk
    · exact hgood.known j (by simpa [setWorker, hjk] using hj)
  case started =>
    intro j hj habsent
    by_cases hjk : j = k
    · subst hjk
      simp [setWorker, hw] at habsent
    · have hstart := hgood.started j hj (by simpa [setWorker, hjk] using habsent)
      simpa [h, Main.toStart, hjk] using hstart
  case ended => exact fun j hj => .inr (hsound.close j hj)
  case fed =>
    intro j hj
    by_cases hjk : j = k
    · exact .inr (hsound.close j (hjk ▸ hk))
    · have hfed := hgood.fed j (by simpa [setWorker, hjk] using hj)
      rw [h] at hfed
      exact hfed
  case main => exact fun j hj => hmain (List.mem_cons_of_mem k hj)

theorem mem_queue_deliver {m : Send κ v A} (h : none ∈ s.queue k) :
    none ∈ (deliver p s m).queue k := by
  cases m with
  | act a => exact h
  | put j x | close j =>
    by_cases hjk : k = j
    · subst hjk
      simp [deliver, h]
    · simpa [deliver, hjk] using h

theorem ended_deliver {m : Send κ v A} (h : s.ended k = true) :
    (deliver p s m).ended k = true := by
  cases m with
  | act a => exact h
  | put j x => exact h
  | close j =>
    by_cases hjk : k = j
    · subst hjk
      simp [deliver]
    · simpa [deliver, hjk] using h

@[simp] theorem worker_deliver (m : Send κ v A) : (deliver p s m).worker = s.worker := by
  cases m <;> rfl

theorem Good.send (hgood : Good p Q s) {m : Send κ v A} {ms : List (Send κ v A)}
    (h : s.main = .sending (m :: ms)) :
    Good p Q { deliver p s m with main := .sending ms } := by
  have hclose : ∀ k, Send.close k ∈ m :: ms →
      (none ∈ (deliver p s m).queue k ∧ (deliver p s m).ended k = true) ∨ Send.close k ∈ ms := by
    intro k hk
    rcases List.mem_cons.mp hk with rfl | hk
    · exact .inl ⟨by simp [deliver], by simp [deliver]⟩
    · exact .inr hk
  constructor
  case known => simpa using hgood.known
  case started => simpa [h, Main.toStart] using hgood.started
  case ended =>
    intro k hk
    rcases hgood.ended k hk with hended | hsend
    · exact .inl (ended_deliver hended)
    · rw [h] at hsend
      exact (hclose k hsend).imp And.right id
  case fed =>
    intro k hk
    rcases hgood.fed k (by simpa using hk) with hnone | hsend
    · exact .inl (mem_queue_deliver hnone)
    · rw [h] at hsend
      exact (hclose k hsend).imp And.left id
  case main => exact trivial

theorem MainMove.good (h : MainMove p s s') (hgood : Good p Q s) (hsound : p.Sound Q) :
    Good p Q s' := by
  have hmain := hgood.main
  cases h with
  | submitted h => exact hgood.idle (.sending _) s.shared h rfl rfl trivial
  | submit h hk => exact hgood.submit hsound h (by simp)
  | submitRaises h hk =>
    rw [MainGood, h] at hmain
    rw [hsound.submit _ (hmain List.mem_cons_self)] at hk
    cases hk
  | send h => exact hgood.send h
  | produced h hr => exact hgood.idle (.joining _) s.shared h rfl rfl (List.Subset.refl _)
  | produceRaises h hr =>
    rw [hsound.produce] at hr
    cases hr
  | joined h => exact hgood.idle (.leaving _) s.shared h rfl rfl rfl
  | recoverAct h =>
    rw [MainGood, h] at hmain
    exact hgood.idle (.recovering _ _ _) _ h rfl rfl hmain
  | recovered h =>
    rw [MainGood, h] at hmain
    exact hgood.idle (.joining _) s.shared h rfl rfl hmain.2
  | recoverRaises h =>
    rw [MainGood, h] at hmain
    cases hmain.1
  | left h hall =>
    have hcalm : Calm s := by
      intro k
      by_cases hk : k ∈ p.keys
      · exact List.all_eq_true.mp hall k hk
      · have habsent : s.worker k = .absent := by_contra fun hne => hk (hgood.known k hne)
        rw [habsent]
        rfl
    exact hgood.idle (.closing _ _) s.shared h rfl rfl
      ⟨hsound.after _, hcalm, hsound.reaches _⟩
  | leftRaising h hall =>
    rw [MainGood, h] at hmain
    cases hmain
  | closeAct h =>
    rw [MainGood, h] at hmain
    exact hgood.idle (.closing _ _) _ h rfl rfl hmain
  | closed h =>
    rw [MainGood, h] at hmain
    exact hgood.idle (.finished _) s.shared h rfl rfl hmain

theorem JoinMove.good (h : JoinMove p s k s') (hgood : Good p Q s) (hsound : p.Sound Q) :
    Good p Q s' := by
  have hmain := hgood.main
  cases h with
  | returned h hk =>
    rw [MainGood, h] at hmain
    exact hgood.idle (.joining _) s.shared h rfl rfl
      fun j hj => hmain (List.mem_of_mem_erase hj)
  | crashed h hk =>
    rw [MainGood, h] at hmain
    exact hgood.idle (.recovering _ _ _) s.shared h rfl rfl
      ⟨hsound.recover _ _, fun j hj => hmain (List.mem_of_mem_erase hj)⟩

/-- A running worker goes on; the end of its queue is not lost while it will wait. -/
theorem Good.worker (hgood : Good p Q s) {w : Worker A ε L} {queue : κ → List (Option v)}
    (shared : σ) (hrun : (s.worker k).halted = false) (hw : w ≠ .absent)
    (hqueue : ∀ j, j ≠ k → queue j = s.queue j)
    (hfed : w.waits = true → none ∈ queue k ∨ Send.close k ∈ s.main.toSend p) :
    Good p Q { setWorker s k w with shared := shared, queue := queue } := by
  have hpresent : s.worker k ≠ .absent := by
    intro h
    rw [h] at hrun
    cases hrun
  constructor
  case known =>
    intro j hj
    by_cases hjk : j = k
    · exact hgood.known j (hjk ▸ hpresent)
    · exact hgood.known j (by simpa [setWorker, hjk] using hj)
  case started =>
    intro j hj habsent
    by_cases hjk : j = k
    · subst hjk
      simp [setWorker, hw] at habsent
    · exact hgood.started j hj (by simpa [setWorker, hjk] using habsent)
  case ended => exact hgood.ended
  case fed =>
    intro j hj
    by_cases hjk : j = k
    · subst hjk
      exact hfed (by simpa [setWorker] using hj)
    · have hold := hgood.fed j (by simpa [setWorker, hjk] using hj)
      simp only [hqueue j hjk]
      exact hold
  case main =>
    have hmain := hgood.main
    have hbusy : ¬Calm s := fun hcalm => by simp [hcalm k] at hrun
    show MainGood p Q _
    rcases hm : s.main with ks | ms | left | ⟨todo, r, left⟩ | r | ⟨todo, r⟩ | r
    case closing | finished =>
      rw [MainGood, hm] at hmain
      exact absurd hmain.2.1 hbusy
    case sending => simp [MainGood, setWorker, hm]
    all_goals
      rw [MainGood, hm] at hmain
      simp only [MainGood, setWorker, hm]
      exact hmain

theorem WorkerMove.good (h : WorkerMove p s k s') (hgood : Good p Q s) : Good p Q s' := by
  cases h with
  | act h =>
    apply hgood.worker _ (by rw [h]; rfl) (by simp) fun _ _ => rfl
    intro hw
    exact hgood.fed k (by rw [h]; exact hw)
  | raise h | returns h =>
    apply hgood.worker s.shared (by rw [h]; rfl) (by simp) fun _ _ => rfl
    simp [Worker.waits]
  | take h hq =>
    apply hgood.worker s.shared (by rw [h]; rfl) (by simp)
    · intro j hj
      exact Function.update_of_ne hj _ _
    · intro _
      have hfed := hgood.fed k (by rw [h]; rfl)
      simpa [hq] using hfed
  | last h hq =>
    apply hgood.worker s.shared (by rw [h]; rfl) (by simp)
    · intro j hj
      exact Function.update_of_ne hj _ _
    · intro hw
      rcases hr : (p.finish k _).result with e | u <;> rw [hr] at hw <;> cases hw

theorem step_good {e : Event κ} (hsound : p.Sound Q) (hgood : Good p Q s)
    (h : step p s e = some s') : Good p Q s' := by
  cases e with
  | main => exact (mainMove_of_step h).good hgood hsound
  | join k => exact (joinMove_of_step h).good hgood hsound
  | worker k => exact (workerMove_of_step h).good hgood

/-- A worker that has not stopped can go on, once nothing is to be sent any more. -/
theorem Good.worker_live (hgood : Good p Q s) (hsend : s.main.toSend p = [])
    (hrun : (s.worker k).halted = false) : (step p s (.worker k)).isSome := by
  show (workerStep p s k).isSome
  rcases hw : s.worker k with - | ⟨- | ⟨a, todo⟩, next⟩ | r
  case absent | stopped =>
    rw [hw] at hrun
    cases hrun
  case running.cons => simp [workerStep, hw]
  case running.nil =>
    rcases next with e | - | l
    · simp [workerStep, hw]
    · simp [workerStep, hw]
    · -- the end of the queue is in it
      have hfed := hgood.fed k (by rw [hw]; rfl)
      rw [hsend] at hfed
      rcases hq : s.queue k with - | ⟨- | x, rest⟩
      · simp [hq] at hfed
      · simp [workerStep, hw, hq]
      · simp [workerStep, hw, hq]

omit [DecidableEq κ] in
/-- A worker that is not to be submitted any more and is not running has stopped. -/
theorem Good.stopped (hgood : Good p Q s) (hstart : s.main.toStart = []) (hk : k ∈ p.keys)
    (hhalted : (s.worker k).halted = true) : ∃ r, s.worker k = .stopped r := by
  rcases hw : s.worker k with - | ⟨todo, next⟩ | r
  · have hmem := hgood.started k hk hw
    simp [hstart] at hmem
  · rw [hw] at hhalted
    cases hhalted
  · exact ⟨r, rfl⟩

/-- The main thread waits for the worker of `k`. -/
theorem Good.join_live (hgood : Good p Q s) {left : List κ} (h : s.main = .joining (k :: left)) :
    ∃ e, (step p s e).isSome := by
  rcases hhalted : (s.worker k).halted with - | -
  · exact ⟨_, hgood.worker_live (by rw [h]; rfl) hhalted⟩
  · have hmain := hgood.main
    rw [MainGood, h] at hmain
    obtain ⟨r, hr⟩ := hgood.stopped (by rw [h]; rfl) (hmain List.mem_cons_self) hhalted
    refine ⟨.join k, ?_⟩
    rcases r with e | u <;> simp [step, joinStep, h, hr]

/-- No deadlock. -/
theorem Good.live (hgood : Good p Q s) : Finished p Q s ∨ ∃ e, (step p s e).isSome := by
  have hmain := hgood.main
  rcases hm : s.main with (- | ⟨k, ks⟩) | (- | ⟨m, ms⟩) | (- | ⟨k, left⟩) |
    ⟨- | ⟨a, todo⟩, r, left⟩ | r | ⟨- | ⟨a, todo⟩, r⟩ | r
  case joining.cons => exact .inr (hgood.join_live hm)
  case leaving =>
    rw [MainGood, hm] at hmain
    rcases hall : p.keys.all fun k => (s.worker k).halted with - | -
    · obtain ⟨k, hk, hrun⟩ := List.all_eq_false.mp hall
      exact .inr ⟨_, hgood.worker_live (by rw [hm]; rfl) (by simpa using hrun)⟩
    · exact .inr ⟨.main, by simp [step, mainStep, hm, hmain, hall]⟩
  case finished =>
    rw [MainGood, hm] at hmain
    obtain ⟨hr, hcalm, hQ⟩ := hmain
    left
    constructor
    case main => rw [hm, hr]
    case ended =>
      intro k hk
      simpa [hm, Main.toSend] using hgood.ended k hk
    case stopped =>
      intro k hk
      exact hgood.stopped (by rw [hm]; rfl) hk (hcalm k)
    case shared => exact hQ
  case submitting.cons =>
    rcases hk : p.submit k with e | u <;> exact .inr ⟨.main, by simp [step, mainStep, hm, hk]⟩
  case sending.nil =>
    rcases hr : p.produce.result with e | u <;>
      exact .inr ⟨.main, by simp [step, mainStep, hm, hr]⟩
  case recovering.nil =>
    rcases r with e | u <;> exact .inr ⟨.main, by simp [step, mainStep, hm]⟩
  all_goals exact .inr ⟨.main, by simp [step, mainStep, hm]⟩

/-- **Every schedule comes to an end**: the workers have stopped, every queue is ended,
and what the last actions reach holds.  The workers may raise anywhere. -/
theorem eventually_finished (hsound : p.Sound Q) (hgood : Good p Q s) :
    Eventually (step p) (Finished p Q) s := by
  have hwf : WellFounded Lower := (Prod.lex Nat.lt_wfRel Nat.lt_wfRel).wf
  apply eventually_of_variant hwf (variant p) _ _ _ hgood
  · intro s e s' h hstep
    exact step_good hsound h hstep
  · intro s e s' h hstep
    exact step_lower h.known hstep
  · intro s h
    simpa [Option.isSome_iff_exists] using h.live

end Good

/-! ### A producer that raises -/

/-- The worker of `k` may raise before the end of its queue. -/
def Crashes (p : Plan κ v A ε L σ) (k : κ) : Prop :=
  (∃ e, (p.start k).result = .error e) ∨ ∃ l x e, (p.receive k l x).result = .error e

/-- The producer raises, and has ended no queue. -/
structure Plan.Starving (p : Plan κ v A ε L σ) : Prop where
  submit : ∀ k ∈ p.keys, p.submit k = .ok ()
  produce : ∃ e, p.produce.result = .error e
  close : ∀ k, Send.close k ∉ p.produce.todo

/-- Where the main thread can be when its producer raises. -/
def MainStarved (p : Plan κ v A ε L σ) (s : State κ v A ε L σ) : Prop :=
  match s.main with
  | .submitting ks => ks ⊆ p.keys
  | .sending ms => ∀ k, Send.close k ∉ ms
  | .leaving r => ∃ e, r = .error e
  | .finished r => (∃ e, r = .error e) ∧ ∀ k ∈ p.keys, (s.worker k).halted = true
  | _ => False

/-- Where a worker can be when its queue is not ended: it waits, or it crashes. -/
def WorkerStarved (p : Plan κ v A ε L σ) (k : κ) : Worker A ε L → Prop
  | .absent => True
  | .running _ (.error _) => Crashes p k
  | .running _ (.ok next) => next ≠ none
  | .stopped _ => Crashes p k

/-- The invariant of the runs whose producer raises. -/
structure Starved (p : Plan κ v A ε L σ) (s : State κ v A ε L σ) : Prop where
  main : MainStarved p s
  queue : ∀ k, none ∉ s.queue k
  started : ∀ k ∈ p.keys, s.worker k = .absent → k ∈ s.main.toStart
  worker : ∀ k, WorkerStarved p k (s.worker k)

omit [DecidableEq κ] in
theorem starved_opening (p : Plan κ v A ε L σ) (shared : σ) : Starved p (opening p shared) where
  main := List.Subset.refl _
  queue _ := List.not_mem_nil
  started _ hk _ := hk
  worker _ := trivial

omit [DecidableEq κ] in
theorem workerStarved_running {todo : List A} {r : Except ε L}
    (h : ∀ e, r = .error e → Crashes p k) : WorkerStarved p k (.running todo (r.map some)) := by
  rcases r with e | l
  · exact h e rfl
  · exact Option.some_ne_none l

theorem MainMove.starved (h : MainMove p s s') (hstarved : Starved p s) (hplan : p.Starving) :
    Starved p s' := by
  have hmain := hstarved.main
  cases h with
  | submitted h =>
    refine ⟨hplan.close, hstarved.queue, ?_, hstarved.worker⟩
    simpa [h, Main.toStart] using hstarved.started
  | @submit k ks h hk =>
    rw [MainStarved, h] at hmain
    constructor
    case main => exact fun j hj => hmain (List.mem_cons_of_mem k hj)
    case queue => exact hstarved.queue
    case started =>
      intro j hj habsent
      by_cases hjk : j = k
      · subst hjk
        simp [setWorker] at habsent
      · have hstart := hstarved.started j hj (by simpa [setWorker, hjk] using habsent)
        simpa [h, Main.toStart, hjk] using hstart
    case worker =>
      intro j
      by_cases hjk : j = k
      · subst hjk
        simp only [setWorker, Function.update_self]
        exact workerStarved_running fun e he => .inl ⟨e, he⟩
      · simpa [setWorker, hjk] using hstarved.worker j
  | submitRaises h hk =>
    rw [MainStarved, h] at hmain
    rw [hplan.submit _ (hmain List.mem_cons_self)] at hk
    cases hk
  | @send m ms h =>
    rw [MainStarved, h] at hmain
    refine ⟨fun k hk => hmain k (List.mem_cons_of_mem m hk), ?_, ?_, by simpa using hstarved.worker⟩
    · intro k hk
      cases m with
      | act a => exact hstarved.queue k hk
      | put j x =>
        by_cases hkj : k = j
        · subst hkj
          simp [deliver, hstarved.queue k] at hk
        · exact hstarved.queue k (by simpa [deliver, hkj] using hk)
      | close j => exact hmain j List.mem_cons_self
    · simpa [h, Main.toStart] using hstarved.started
  | produced h hr =>
    obtain ⟨e, he⟩ := hplan.produce
    rw [he] at hr
    cases hr
  | produceRaises h hr =>
    refine ⟨⟨_, rfl⟩, hstarved.queue, ?_, hstarved.worker⟩
    simpa [h, Main.toStart] using hstarved.started
  | leftRaising h hall =>
    refine ⟨⟨⟨_, rfl⟩, List.all_eq_true.mp hall⟩, hstarved.queue, ?_, hstarved.worker⟩
    simpa [h, Main.toStart] using hstarved.started
  | left h hall =>
    rw [MainStarved, h] at hmain
    obtain ⟨e, he⟩ := hmain
    cases he
  | joined h | recoverAct h | recovered h | recoverRaises h | closeAct h | closed h =>
    rw [MainStarved, h] at hmain
    exact hmain.elim

theorem Starved.worker_step (hstarved : Starved p s) {w : Worker A ε L}
    {queue : κ → List (Option v)} (shared : σ) (hrun : (s.worker k).halted = false)
    (hw : WorkerStarved p k w) (hpresent : w ≠ .absent) (hqueue : ∀ j, queue j ⊆ s.queue j) :
    Starved p { setWorker s k w with shared := shared, queue := queue } := by
  constructor
  case main =>
    have hmain := hstarved.main
    show MainStarved p _
    rcases hm : s.main with ks | ms | left | ⟨todo, r, left⟩ | r | ⟨todo, r⟩ | r
    case finished =>
      rw [MainStarved, hm] at hmain
      simp only [MainStarved, setWorker, hm]
      refine ⟨hmain.1, fun j hj => ?_⟩
      by_cases hjk : j = k
      · subst hjk
        simp [hmain.2 j hj] at hrun
      · simpa [hjk] using hmain.2 j hj
    all_goals
      rw [MainStarved, hm] at hmain
      simp only [MainStarved, setWorker, hm]
      exact hmain
  case queue => exact fun j hj => hstarved.queue j (hqueue j hj)
  case started =>
    intro j hj habsent
    by_cases hjk : j = k
    · subst hjk
      simp [setWorker, hpresent] at habsent
    · exact hstarved.started j hj (by simpa [setWorker, hjk] using habsent)
  case worker =>
    intro j
    by_cases hjk : j = k
    · subst hjk
      simpa [setWorker] using hw
    · simpa [setWorker, hjk] using hstarved.worker j

theorem WorkerMove.starved (h : WorkerMove p s k s') (hstarved : Starved p s) :
    Starved p s' := by
  have hworker := hstarved.worker k
  cases h with
  | @act a todo next h =>
    rw [h] at hworker
    apply hstarved.worker_step _ (by rw [h]; rfl) _ (by simp) fun _ => List.Subset.refl _
    rcases next with e | next <;> exact hworker
  | raise h =>
    rw [h] at hworker
    exact hstarved.worker_step s.shared (by rw [h]; rfl) hworker (by simp)
      fun _ => List.Subset.refl _
  | returns h =>
    rw [h] at hworker
    exact absurd rfl hworker
  | @take l x rest h hq =>
    apply hstarved.worker_step s.shared (by rw [h]; rfl) _ (by simp)
    · intro j
      by_cases hjk : j = k
      · subst hjk
        simp [hq]
      · simp [hjk]
    · exact workerStarved_running fun e he => .inr ⟨l, x, e, he⟩
  | last h hq =>
    have hnone := hstarved.queue k
    simp [hq] at hnone

theorem step_starved {e : Event κ} (hplan : p.Starving) (hstarved : Starved p s)
    (h : step p s e = some s') : Starved p s' := by
  cases e with
  | main => exact (mainMove_of_step h).starved hstarved hplan
  | worker k => exact (workerMove_of_step h).starved hstarved
  | join k =>
    have hmain := hstarved.main
    cases joinMove_of_step h with
    | returned hm | crashed hm =>
      rw [MainStarved, hm] at hmain
      exact hmain.elim

/-- When the producer raises, the main thread ends only after every worker has crashed,
and never normally. -/
theorem starved_over {shared : σ} {r : Except ε Unit} (hplan : p.Starving)
    (hreach : Relation.ReflTransGen (Moves (step p)) (opening p shared) s)
    (hover : s.main = .finished r) : (∃ e, r = .error e) ∧ ∀ k ∈ p.keys, Crashes p k := by
  have hstarved := reach_invariant (fun _ _ _ h => step_starved hplan h) hreach
    (starved_opening p shared)
  have hmain := hstarved.main
  rw [MainStarved, hover] at hmain
  refine ⟨hmain.1, fun k hk => ?_⟩
  have hworker := hstarved.worker k
  have hhalted := hmain.2 k hk
  rcases hw : s.worker k with - | ⟨todo, next⟩ | r'
  · have hstart := hstarved.started k hk hw
    simp [hover, Main.toStart] at hstart
  · rw [hw] at hhalted
    cases hhalted
  · rw [hw] at hworker
    exact hworker

end Runs

end Sda.ForkJoin
