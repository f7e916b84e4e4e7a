/-
Sda/Robux/Reconcile.lean

Which RbxCrate orders end in ERROR (tools/services/robuxcrate.py).

The state is one batch with its orders and the create calls made for them; a step is one
call with its answer, on an order in the state the calling loop selects.  Steps 1 to 3 of
`_process_batch` are runs of such steps (`processCalls_run`), and so is everything made of
cycles and manual calls.

A create call may have been accepted unless the provider refused it.  Then the order is to
become ERROR only by an answer about it: a body whose status is an error, or an info call
that does not find it.

* `errors_reported` — so it is in every run whose answers meet `AnswerFits`, and in no other;
* `errors_unreported` — an info call answered with a rate limit.
-/
import Sda.Lib.Prog
import Sda.Lib.Run
import Sda.Lib.Table
import Sda.Robux.Orders

namespace Sda.Robux

/-! ### Calls -/

/-- The functions that call the provider. -/
inductive Caller
  | send | reconcile | check | refresh | cancel
  deriving DecidableEq, Repr

/-- One call for an order, and its answer. -/
structure Call where
  caller : Caller
  order : Nat
  answer : Answer

/-- A batch, its orders, and the answers to the create calls made so far. -/
structure Ledger where
  places : Places := {}
  orders : Table Order
  creates : List (Nat × Answer) := []

/-- The state of an order in which the caller's loop selects it. -/
def Caller.selects : Caller → OrderStatus → Bool
  | .send, status => status == .pending
  | .reconcile, status => status == .unknown
  | .check, status => status == .queued
  | .refresh, _ => true
  | .cancel, status => !status.isFinal

/-- What the caller does with its copy of the order. -/
def Call.outcome (places : Places) (o : Order) (c : Call) :
    Except PyError (Places × Option Order) :=
  match c.caller with
  | .send => (sendOrder places o c.answer).map fun r => (r.1, some r.2)
  | .reconcile => (reconcileOrder o c.answer).map (places, ·)
  | .check => (checkOrderStatus o c.answer).map (places, ·)
  | .refresh => (refreshOrderStatus o c.answer).map (places, ·)
  | .cancel => .ok (places, cancelOrder o c.answer)

/-- The create calls, this one included. -/
def Ledger.asked (s : Ledger) (c : Call) : List (Nat × Answer) :=
  if c.caller = .send then (c.order, c.answer) :: s.creates else s.creates

/-- One call. -/
def step (s : Ledger) (c : Call) : Ledger :=
  match s.orders.get? c.order with
  | none => s
  | some o =>
    if c.caller.selects o.status then
      match c.outcome s.places o with
      | .error _ => { s with creates := s.asked c }
      | .ok (places, none) => { s with places, creates := s.asked c }
      | .ok (places, some o') =>
        { places, orders := s.orders.set c.order o', creates := s.asked c }
    else s

/-! ### A cycle -/

/-- Whether the caller raises. -/
def Ledger.exits (s : Ledger) (c : Call) : Except PyError Unit :=
  match s.orders.get? c.order with
  | none => .ok ()
  | some o => (c.outcome s.places o).map fun _ => ()

/-- One call of a loop; the answers come from the environment. -/
def callOne (caller : Caller) (answer : Nat → Answer) (k : Nat) : Prog PyError Ledger Unit :=
  ExceptT.mk fun s => (s.exits ⟨caller, k, answer k⟩, step s ⟨caller, k, answer k⟩)

/-- `for order in list(batch.orders.filter(status=…))`. -/
def callEach (caller : Caller) (answer : Nat → Answer) : Prog PyError Ledger Unit := do
  let selected ← Prog.atomic fun s =>
    .ok ((s.orders.select fun _ o => caller.selects o.status).map Prod.fst, s)
  Prog.each selected (callOne caller answer)

/-- **`_process_batch`**, the steps 1 to 3. -/
def processCalls (sent reconciled checked : Nat → Answer) : Prog PyError Ledger Unit := do
  callEach .send sent
  callEach .reconcile reconciled
  callEach .check checked

theorem callEach_run (caller : Caller) (answer : Nat → Answer) :
    Prog.Within (Reaches step) (callEach caller answer) := by
  apply Prog.Within.bind Reaches.trans
  · apply Prog.Within.atomic Reaches.refl
    intro s a s' h
    cases h
    exact Reaches.refl s
  · intro selected
    apply Prog.Within.each Reaches.refl Reaches.trans
    intro k _ s
    exact Reaches.one s _

/-- **A cycle is a run of calls.** -/
theorem processCalls_run (sent reconciled checked : Nat → Answer) :
    Prog.Within (Reaches step) (processCalls sent reconciled checked) := by
  apply Prog.Within.bind Reaches.trans (callEach_run .send sent)
  intro _
  apply Prog.Within.bind Reaches.trans (callEach_run .reconcile reconciled)
  intro _
  exact callEach_run .check checked

/-! ### The property -/

/-- The create call that was answered so may have been accepted. -/
def mayHaveCreated : Answer → Bool
  | .error _ => true
  | .ok (.success _ _) => true
  | .ok (.failure e _) =>
    match e.category with
    | .validation | .authentication | .rateLimit | .notFound | .conflict => false
    | .network | .timeout | .serverError | .unknown => true

/-- The provider says of this order that it has failed, or that it does not exist. -/
def Call.reports (c : Call) : Prop :=
  match c.answer with
  | .error _ => False
  | .ok (.success body _) => ∃ raw, body.status = .ok (.text raw) ∧ mapProviderStatus raw = .error
  | .ok (.failure e _) => c.caller ≠ .send ∧ e.category = .notFound

/-- An order that may exist becomes ERROR only by a report, and a reconciliation without one
leaves it UNKNOWN. -/
structure ErrorReported (s : Ledger) (c : Call) : Prop where
  earned : ∀ k o o', s.orders.get? k = some o → (step s c).orders.get? k = some o' →
    o.status ≠ .error → o'.status = .error →
      (∃ a, (k, a) ∈ (step s c).creates ∧ mayHaveCreated a = true) → c.order = k ∧ c.reports
  kept : ∀ o o' e code, c.caller = .reconcile → s.orders.get? c.order = some o →
    o.status = .unknown → c.answer = .ok (.failure e code) → e.category ≠ .notFound →
      (step s c).orders.get? c.order = some o' → o'.status = .unknown

/-- The next place is tried. -/
def Places.advances (ps : Places) (e : ErrorDetail) : Prop :=
  ps.autoPlace = true ∧ e.category = .notFound ∧ ps.attemptIndex + 1 < ps.candidates.length

/-- A failed reconciliation is uncertain or does not find the order; and an order that may
exist is not sent again and refused, unless the next place is tried. -/
def AnswerFits (s : Ledger) (c : Call) : Prop :=
  ∀ o e code, s.orders.get? c.order = some o → c.caller.selects o.status = true →
    c.answer = .ok (.failure e code) →
      match c.caller with
      | .reconcile => isUncertainError e = true ∨ e.category = .notFound
      | .send => isUncertainError e = true ∨ s.places.advances e ∨
          ∀ a, (c.order, a) ∈ s.creates → mayHaveCreated a = false
      | _ => True

/-! ### One call -/

variable {s : Ledger} {c : Call} {k : Nat} {o o' : Order} {places : Places}

theorem step_selected (hk : s.orders.get? c.order = some o)
    (hsel : c.caller.selects o.status = true) (hout : c.outcome s.places o = .ok (places, some o')) :
    (step s c).orders.get? c.order = some o' := by
  rw [step, hk]
  dsimp only
  rw [if_pos hsel, hout]
  exact Table.get?_set_self hk

/-- A row that a call has changed is the caller's copy. -/
theorem step_changed (hk : s.orders.get? k = some o) (hk' : (step s c).orders.get? k = some o')
    (hne : o'.status ≠ o.status) :
    c.order = k ∧ c.caller.selects o.status = true ∧
      ∃ places, c.outcome s.places o = .ok (places, some o') := by
  have same : ∀ {orders : Table Order}, orders.get? k = some o' → orders = s.orders → False := by
    rintro orders h rfl
    rw [hk] at h
    cases h
    exact hne rfl
  rw [step] at hk'
  rcases hget : s.orders.get? c.order with - | a
  · rw [hget] at hk'
    exact (same hk' rfl).elim
  · rw [hget] at hk'
    dsimp only at hk'
    split at hk'
    · next hsel =>
      rcases hout : c.outcome s.places a with e | ⟨places, - | b⟩
      · rw [hout] at hk'
        exact (same hk' rfl).elim
      · rw [hout] at hk'
        exact (same hk' rfl).elim
      · rw [hout] at hk'
        dsimp only at hk'
        rw [Table.get?_set hget] at hk'
        split at hk'
        · next hck =>
          subst hck
          rw [hk] at hget
          cases hget
          cases hk'
          exact ⟨rfl, hsel, places, hout⟩
        · exact (same hk' rfl).elim
    · exact (same hk' rfl).elim

/-- A body that makes a row ERROR reports it. -/
theorem read_error {default : OrderStatus} {body : Body} (h : o.read default body = .ok o')
    (hdefault : default ≠ .error) (herror : o'.status = .error) :
    ∃ raw, body.status = .ok (.text raw) ∧ mapProviderStatus raw = .error := by
  rw [Order.read] at h
  obtain ⟨raw, hraw, h⟩ := except_bind_ok.mp h
  obtain ⟨status, hstatus, h⟩ := except_bind_ok.mp h
  obtain ⟨column, -, h⟩ := except_bind_ok.mp h
  cases h
  have herror : status = .error := herror
  subst herror
  rcases raw with - | raw | ⟨str, - | -⟩
  · cases hstatus
    exact absurd rfl hdefault
  · rw [Field.mapped, Except.ok.injEq] at hstatus
    split at hstatus
    · exact absurd hstatus hdefault
    · exact ⟨raw, hraw, hstatus⟩
  · cases hstatus
    exact absurd rfl hdefault
  · cases hstatus

section Rows

variable {ps : Places} {e : ErrorDetail} {code : Option Nat}

theorem sendOrder_refused (hcertain : isUncertainError e = false) (hlast : ¬ps.advances e) :
    sendOrder ps o (.ok (.failure e code)) =
      .ok (ps, { o with status := .error, errorMessage := e.message }) := by
  have hnone : (if ps.autoPlace && e.category = .notFound then advanceToNextPlace ps e
      else none) = none := by
    split
    · next hauto =>
      rw [Bool.and_eq_true, decide_eq_true_eq] at hauto
      have hlen : ps.candidates.length ≤ ps.attemptIndex + 1 :=
        not_lt.mp fun hlt => hlast ⟨hauto.1, hauto.2, hlt⟩
      rw [advanceToNextPlace, List.getElem?_eq_none hlen]
    · rfl
  rw [sendOrder, if_neg (by rw [hcertain]; exact Bool.false_ne_true)]
  dsimp only
  rw [hnone]
  rfl

theorem sendOrder_advanced (hcertain : isUncertainError e = false) (hnext : ps.advances e)
    (h : sendOrder ps o (.ok (.failure e code)) = .ok (places, o')) : o'.status = .pending := by
  obtain ⟨hauto, hcategory, hlt⟩ := hnext
  rw [sendOrder, if_neg (by rw [hcertain]; exact Bool.false_ne_true)] at h
  dsimp only at h
  rw [if_pos (by simp [hauto, hcategory]), advanceToNextPlace, List.getElem?_eq_getElem hlt] at h
  cases h
  rfl

/-- **What makes an order ERROR**: a report, or a refusal that is taken for one. -/
theorem error_cases (hout : c.outcome ps o = .ok (places, some o')) (hnot : o.status ≠ .error)
    (herror : o'.status = .error) :
    c.reports ∨ ∃ e code, c.answer = .ok (.failure e code) ∧ isUncertainError e = false ∧
      (c.caller = .reconcile ∨ c.caller = .send ∧ ¬ps.advances e) := by
  obtain ⟨caller, k, answer⟩ := c
  cases caller with
  | send =>
    obtain ⟨⟨ps', a⟩, hsend, heq⟩ := except_map_ok.mp hout
    cases heq
    rcases answer with exc | ⟨body, code⟩ | ⟨e, code⟩
    · cases hsend
      cases herror
    · obtain ⟨read, hread, h⟩ := except_bind_ok.mp hsend
      cases h
      exact Or.inl (read_error hread (by decide) herror)
    · right
      by_cases hcertain : isUncertainError e = true
      · rw [sendOrder, if_pos hcertain] at hsend
        cases hsend
        cases herror
      · rw [Bool.not_eq_true] at hcertain
        refine ⟨e, code, rfl, hcertain, Or.inr ⟨rfl, fun hnext => ?_⟩⟩
        rw [sendOrder_advanced hcertain hnext hsend] at herror
        cases herror
  | reconcile =>
    obtain ⟨r, hrec, heq⟩ := except_map_ok.mp hout
    cases heq
    rcases answer with exc | ⟨body, code⟩ | ⟨e, code⟩
    · cases hrec
    · obtain ⟨read, hread, h⟩ := except_bind_ok.mp hrec
      cases h
      exact Or.inl (read_error hread (by decide) herror)
    · right
      by_cases hcertain : isUncertainError e = true
      · rw [reconcileOrder, if_pos hcertain] at hrec
        cases hrec
      · rw [Bool.not_eq_true] at hcertain
        exact ⟨e, code, rfl, hcertain, Or.inl rfl⟩
  | check =>
    obtain ⟨r, hcheck, heq⟩ := except_map_ok.mp hout
    cases heq
    rcases answer with exc | ⟨body, code⟩ | ⟨e, code⟩
    · cases hcheck
    · obtain ⟨read, hread, h⟩ := except_bind_ok.mp hcheck
      cases h
      exact Or.inl (read_error hread hnot herror)
    · cases hcheck
      exact absurd herror hnot
  | refresh =>
    obtain ⟨r, hrefresh, heq⟩ := except_map_ok.mp hout
    cases heq
    rcases answer with exc | ⟨body, code⟩ | ⟨e, code⟩
    · cases hrefresh
    · obtain ⟨read, hread, h⟩ := except_bind_ok.mp hrefresh
      cases h
      exact Or.inl (read_error hread hnot herror)
    · cases hrefresh
      exact absurd herror hnot
  | cancel =>
    rw [Call.outcome, Except.ok.injEq, Prod.mk.injEq] at hout
    obtain ⟨-, hcancel⟩ := hout
    rcases answer with exc | ⟨body, code⟩ | ⟨e, code⟩
    · cases hcancel
    · rw [cancelOrder] at hcancel
      split at hcancel
      · cases hcancel
      · cases hcancel
        cases herror
    · cases hcancel

end Rows

theorem refused_of_certain {e : ErrorDetail} {code : Option Nat}
    (h : isUncertainError e = false) : mayHaveCreated (.ok (.failure e code)) = false := by
  rw [isUncertainError] at h
  rw [mayHaveCreated]
  cases hcategory : e.category <;> rw [hcategory] at h <;> first | rfl | cases h

theorem ne_error_of_pending {status : OrderStatus} (h : Caller.send.selects status = true) :
    status ≠ .error := by
  rintro rfl
  cases h

/-- The create calls after a call that was made. -/
theorem creates_step (hk : s.orders.get? c.order = some o)
    (hsel : c.caller.selects o.status = true) : (step s c).creates = s.asked c := by
  rw [step, hk]
  dsimp only
  rw [if_pos hsel]
  rcases c.outcome s.places o with e | ⟨places, - | b⟩ <;> rfl

section OneCall

variable {e : ErrorDetail} {code : Option Nat}

/-- An order that may exist is not refused, unless the next place is tried. -/
theorem ErrorReported.send (h : ErrorReported s c) (hcaller : c.caller = .send)
    (hk : s.orders.get? c.order = some o) (hsel : c.caller.selects o.status = true)
    (hanswer : c.answer = .ok (.failure e code)) :
    isUncertainError e = true ∨ s.places.advances e ∨
      ∀ a, (c.order, a) ∈ s.creates → mayHaveCreated a = false := by
  by_contra hbad
  push Not at hbad
  obtain ⟨hcertain, hlast, a, ha, hmay⟩ := hbad
  rw [ne_eq, Bool.not_eq_true] at hcertain
  rw [ne_eq, Bool.not_eq_false] at hmay
  have hout : c.outcome s.places o =
      .ok (s.places, some { o with status := .error, errorMessage := e.message }) := by
    rw [Call.outcome, hcaller, hanswer]
    dsimp only
    rw [sendOrder_refused hcertain hlast]
    rfl
  have hcreates : (c.order, a) ∈ (step s c).creates := by
    rw [creates_step hk hsel, Ledger.asked, if_pos hcaller]
    exact List.mem_cons_of_mem _ ha
  have hnot : o.status ≠ .error := by
    rw [hcaller] at hsel
    exact ne_error_of_pending hsel
  obtain ⟨-, hreport⟩ := h.earned c.order o _ hk (step_selected hk hsel hout) hnot rfl
    ⟨a, hcreates, hmay⟩
  rw [Call.reports, hanswer] at hreport
  exact hreport.1 hcaller

/-- A failed reconciliation is uncertain, or does not find the order. -/
theorem ErrorReported.reconcile (h : ErrorReported s c) (hcaller : c.caller = .reconcile)
    (hk : s.orders.get? c.order = some o) (hsel : c.caller.selects o.status = true)
    (hanswer : c.answer = .ok (.failure e code)) :
    isUncertainError e = true ∨ e.category = .notFound := by
  by_contra hbad
  push Not at hbad
  obtain ⟨hcertain, hcategory⟩ := hbad
  rw [ne_eq, Bool.not_eq_true] at hcertain
  have hunknown : o.status = .unknown := by
    rw [hcaller] at hsel
    exact beq_iff_eq.mp hsel
  have hout : c.outcome s.places o = .ok (s.places, some { o with
      status := .error
      errorMessage := "Order not found at provider after network error" }) := by
    rw [Call.outcome, hcaller, hanswer]
    dsimp only
    rw [reconcileOrder, if_neg (by rw [hcertain]; exact Bool.false_ne_true)]
    rfl
  have hkept := h.kept o _ e code hcaller hk hunknown hanswer hcategory
    (step_selected hk hsel hout)
  cases hkept

/-- Where the answer fits, an order that may exist becomes ERROR by a report. -/
theorem AnswerFits.reports (h : AnswerFits s c) (hk : s.orders.get? k = some o)
    (hk' : (step s c).orders.get? k = some o') (hnot : o.status ≠ .error)
    (herror : o'.status = .error) {a : Answer} (ha : (k, a) ∈ (step s c).creates)
    (hmay : mayHaveCreated a = true) : c.order = k ∧ c.reports := by
  obtain ⟨rfl, hsel, places, hout⟩ := step_changed hk hk' fun heq => hnot (heq ▸ herror)
  refine ⟨rfl, ?_⟩
  rcases error_cases hout hnot herror with hreport | ⟨e, code, hanswer, hcertain, hcaller⟩
  · exact hreport
  · have hfits := h o e code hk hsel hanswer
    rcases hcaller with hcaller | ⟨hcaller, hlast⟩
    · rw [hcaller] at hfits
      rcases hfits with huncertain | hcategory
      · rw [hcertain] at huncertain
        cases huncertain
      · rw [Call.reports, hanswer]
        refine ⟨?_, hcategory⟩
        rw [hcaller]
        exact nofun
    · rw [hcaller] at hfits
      rcases hfits with huncertain | hnext | hnone
      · rw [hcertain] at huncertain
        cases huncertain
      · exact absurd hnext hlast
      · -- neither this create call nor an earlier one may have been accepted
        rw [creates_step hk hsel, Ledger.asked, if_pos hcaller, List.mem_cons] at ha
        rcases ha with heq | ha
        · cases heq
          rw [hanswer, refused_of_certain hcertain] at hmay
          cases hmay
        · rw [hnone a ha] at hmay
          cases hmay

/-- Where the answer fits, a reconciliation that does not say that the order is missing leaves it
UNKNOWN. -/
theorem AnswerFits.keeps (h : AnswerFits s c) (hcaller : c.caller = .reconcile)
    (hk : s.orders.get? c.order = some o) (hunknown : o.status = .unknown)
    (hanswer : c.answer = .ok (.failure e code)) (hcategory : e.category ≠ .notFound)
    (hk' : (step s c).orders.get? c.order = some o') : o'.status = .unknown := by
  by_contra hne
  obtain ⟨-, hsel, places, hout⟩ := step_changed hk hk' fun heq => hne (heq.trans hunknown)
  have hfits := h o e code hk hsel hanswer
  rw [hcaller] at hfits
  have huncertain : isUncertainError e = true := hfits.resolve_right hcategory
  rw [Call.outcome, hcaller, hanswer] at hout
  dsimp only at hout
  rw [reconcileOrder, if_pos huncertain] at hout
  cases hout

end OneCall

/-- **One call reports its errors exactly when its answer fits.** -/
theorem errorReported_iff (s : Ledger) (c : Call) : ErrorReported s c ↔ AnswerFits s c := by
  constructor
  · intro h o e code hk hsel hanswer
    rcases hcaller : c.caller with - | - | - | - | -
    · exact h.send hcaller hk hsel hanswer
    · exact h.reconcile hcaller hk hsel hanswer
    · trivial
    · trivial
    · trivial
  · intro h
    constructor
    · rintro k o o' hk hk' hnot herror ⟨a, ha, hmay⟩
      exact h.reports hk hk' hnot herror ha hmay
    · intro o o' e code hcaller hk hunknown hanswer hcategory hk'
      exact h.keeps hcaller hk hunknown hanswer hcategory hk'

/-! ### Runs -/

/-- **Errors are reported** in a run of calls exactly when all answers fit. -/
theorem errors_reported (s : Ledger) (calls : List Call) :
    Along step ErrorReported s calls ↔ Along step AnswerFits s calls :=
  along_iff_along (I := fun _ => True) (fun _ _ _ _ => trivial)
    (fun s c _ => errorReported_iff s c) trivial calls

/-- One order, not sent yet. -/
def oneOrder : Ledger := { orders := Table.empty.create {} }

/-- The create call times out; the reconciliation is answered 429. -/
def rateLimited : List Call :=
  [⟨.send, 0, .ok (.failure ⟨.timeout, "timed out", none, true, {}, ""⟩)⟩,
    ⟨.reconcile, 0, .ok (.failure ⟨.rateLimit, "HTTP 429", some 429, false, {}, ""⟩ (some 429))⟩]

theorem errors_unreported : ¬Along step ErrorReported oneOrder rateLimited := by
  rintro ⟨-, h, -⟩
  rcases (errorReported_iff _ _).mp h _ _ _ rfl rfl rfl with huncertain | hcategory
  · cases huncertain
  · cases hcategory

end Sda.Robux
