/-
Sda/Robux/AutoPlace.lean

The places an auto-place batch tries (tools/services/robuxcrate.py).

A place has no gamepass if a create call is answered NOT_FOUND; the batch then goes on to the next
candidate, whichever of its orders was refused, and that order is sent again.  `Search` keeps the
create calls beside the batch, each with the place it was made for.

* `search_exhaustive` — the candidates are tried in order, none before all earlier ones have
  failed; an order that a create call ends as not found has seen the last of them fail; and the
  create calls are at most the orders and the candidates together;
* `search_fails` — an order that a reconciliation does not find ends whatever the places are, and
  an answer that cannot be stored leaves its order to be sent again.
-/
import Sda.Robux.Reconcile

namespace Sda.Robux

/-! ### The search -/

/-- A create call, and the place it was made for. -/
structure Try where
  order : Nat
  /-- Its index among the candidates, `batch.place_attempt_index`. -/
  place : Nat
  placeId : Nat
  answer : Answer

/-- A batch with its create calls, the latest first. -/
structure Search where
  ledger : Ledger
  tries : List Try := []

/-- The create call that is made, if this is one. -/
def Ledger.creating (s : Ledger) (c : Call) : List Try :=
  match c.caller, s.orders.get? c.order with
  | .send, some o =>
    if o.status = .pending then
      [⟨c.order, s.places.attemptIndex, s.places.placeId, c.answer⟩]
    else []
  | _, _ => []

/-- One call. -/
def Search.take (s : Search) (c : Call) : Search :=
  { ledger := step s.ledger c, tries := s.ledger.creating c ++ s.tries }

/-- The orders of a new batch. -/
def newOrders : Nat → Table Order
  | 0 => Table.empty
  | n + 1 => (newOrders n).create {}

/-- A new batch in auto-place mode: its place is the first candidate. -/
def newSearch (first : Place) (others : List Place) (orders : Nat) : Search :=
  { ledger :=
    { places :=
      { autoPlace := true
        candidates := first :: others
        placeId := first.placeId
        placeName := first.name }
      orders := newOrders orders } }

/-! ### The property -/

/-- The call was answered NOT_FOUND. -/
def isNotFound : Answer → Bool
  | .ok (.failure e _) => e.category = .notFound
  | _ => false

/-- This candidate was answered NOT_FOUND. -/
def Failed (tries : List Try) (place : Nat) : Prop :=
  ∃ t ∈ tries, t.place = place ∧ isNotFound t.answer = true

/-- The candidates are tried in order: each only after all before it have failed, and none after a
later one. -/
def InOrder (candidates : List Place) : List Try → Prop
  | [] => True
  | t :: older =>
    (∃ p, candidates[t.place]? = some p ∧ t.placeId = p.placeId) ∧
      (∀ place < t.place, Failed older place) ∧ (∀ u ∈ older, u.place ≤ t.place) ∧
      InOrder candidates older

/-- The call ends an order as ERROR because it was answered NOT_FOUND. -/
def Search.EndsNotFound (s : Search) (c : Call) : Prop :=
  isNotFound c.answer = true ∧ ∃ o o', s.ledger.orders.get? c.order = some o ∧
    o.status ≠ .error ∧ (s.take c).ledger.orders.get? c.order = some o' ∧ o'.status = .error

/-- Every candidate was answered NOT_FOUND. -/
def Search.Exhausted (s : Search) : Prop :=
  ∀ place < s.ledger.places.candidates.length, Failed s.tries place

/-- An order that is ended as not found has exhausted the candidates, unless it is a
reconciliation that does not find it. -/
def Search.Thorough (s : Search) (c : Call) : Prop :=
  s.EndsNotFound c → c.caller = .send ∧ (s.take c).Exhausted ∨ c.caller = .reconcile

/-- What can be read and stored of the body of a create call. -/
def Body.Storable : Body → Prop
  | .object none _ => True
  | .object (some .null) _ => False
  | .object (some (.text s)) _ => s.length ≤ 50
  | .object (some (.other str truthy)) _ => truthy = false ∧ str.length ≤ 50
  | .other truthy => truthy = false

/-- The answer to a create call can be read and stored. -/
def Call.Storable (_ : Search) (c : Call) : Prop :=
  ∀ body code, c.caller = .send → c.answer = .ok (.success body code) → body.Storable

/-! ### One call -/

variable {ps places : Places} {o o' : Order} {s : Search} {c : Call} {answer : Answer}

/-- No status of the provider is PENDING. -/
theorem mapProviderStatus_ne_pending (raw : String) : mapProviderStatus raw ≠ .pending := by
  intro h
  rw [mapProviderStatus] at h
  rcases hlookup : statusMap.lookup (stripText (lowerText raw)) with - | status
  · rw [hlookup] at h
    cases h
  · rw [hlookup] at h
    obtain ⟨before, after, heq, -⟩ := List.lookup_eq_some_iff.mp hlookup
    have hmem : status ∈ statusMap.map Prod.snd := by
      rw [heq]
      simp
    have hnone : ∀ status ∈ statusMap.map Prod.snd, status ≠ .pending := by decide
    exact hnone status hmem h

/-- Reading a body makes no row PENDING. -/
theorem read_ne_pending {default : OrderStatus} {body : Body} (h : o.read default body = .ok o')
    (hdefault : default ≠ .pending) : o'.status ≠ .pending := by
  rw [Order.read] at h
  obtain ⟨raw, -, h⟩ := except_bind_ok.mp h
  obtain ⟨status, hstatus, h⟩ := except_bind_ok.mp h
  obtain ⟨column, -, h⟩ := except_bind_ok.mp h
  cases h
  show status ≠ .pending
  rcases raw with - | raw | ⟨str, - | -⟩
  · cases hstatus
    exact hdefault
  · rw [Field.mapped, Except.ok.injEq] at hstatus
    rw [← hstatus]
    split
    · exact hdefault
    · exact mapProviderStatus_ne_pending raw
  · cases hstatus
    exact hdefault
  · cases hstatus

/-- What can be stored is read. -/
theorem read_of_storable {body : Body} (h : body.Storable) (o : Order) (default : OrderStatus) :
    ∃ o', o.read default body = .ok o' := by
  rcases body with ⟨status, error⟩ | truthy
  · rcases status with - | - | s | ⟨str, truthy⟩
    · exact ⟨_, rfl⟩
    · cases h
    · have hcolumn : (Field.text s).column = .ok s := if_pos h
      refine ⟨{ o with
        status := if s = "" then default else mapProviderStatus s
        rawProviderStatus := s }, ?_⟩
      apply except_bind_ok.mpr
      exact ⟨.text s, rfl, except_bind_ok.mpr ⟨_, rfl, except_bind_ok.mpr ⟨s, hcolumn, rfl⟩⟩⟩
    · obtain ⟨rfl, hlen⟩ := h
      have hcolumn : (Field.other str false).column = .ok str := if_pos hlen
      refine ⟨{ o with status := default, rawProviderStatus := str }, ?_⟩
      apply except_bind_ok.mpr
      exact ⟨.other str false, rfl,
        except_bind_ok.mpr ⟨_, rfl, except_bind_ok.mpr ⟨str, hcolumn, rfl⟩⟩⟩
  · cases (show truthy = false from h)
    exact ⟨_, rfl⟩

/-- A create call on which the batch goes on to the next place. -/
structure Advances (ps places : Places) (answer : Answer) (o' : Order) : Prop where
  missing : isNotFound answer = true
  next : ∃ p, ps.candidates[ps.attemptIndex + 1]? = some p ∧
    places = { ps with
      attemptIndex := ps.attemptIndex + 1
      placeId := p.placeId
      placeName := p.name }
  pending : o'.status = .pending

/-- A create call that settles its order for now. -/
structure Stays (ps places : Places) (answer : Answer) (o' : Order) : Prop where
  same : places = ps
  sent : o'.status ≠ .pending
  last : isNotFound answer = true → ps.candidates.length ≤ ps.attemptIndex + 1

/-- **What a create call does.** -/
theorem sendOrder_cases (hauto : ps.autoPlace = true) (o : Order)
    (hstorable : ∀ body code, answer = .ok (.success body code) → body.Storable) :
    ∃ places o', sendOrder ps o answer = .ok (places, o') ∧
      (Advances ps places answer o' ∨ Stays ps places answer o') := by
  rcases answer with exc | ⟨body, code⟩ | ⟨e, code⟩
  · exact ⟨_, _, rfl, Or.inr ⟨rfl, (fun h => by cases h), fun h => by cases h⟩⟩
  · obtain ⟨read, hread⟩ := read_of_storable (hstorable body code rfl) o .queued
    refine ⟨ps, { read with errorMessage := "" }, ?_, Or.inr ⟨rfl, ?_, fun h => by cases h⟩⟩
    · rw [sendOrder, hread]
      rfl
    · show read.status ≠ .pending
      exact read_ne_pending hread (by decide)
  · by_cases huncertain : isUncertainError e = true
    · rw [sendOrder, if_pos huncertain]
      refine ⟨_, _, rfl, Or.inr ⟨rfl, (fun h => by cases h), ?_⟩⟩
      intro hmissing
      have hcategory : e.category = .notFound := by simpa [isNotFound] using hmissing
      rw [isUncertainError, hcategory] at huncertain
      cases huncertain
    · rw [Bool.not_eq_true] at huncertain
      by_cases hnext : ps.advances e
      · obtain ⟨p, hp⟩ : ∃ p, ps.candidates[ps.attemptIndex + 1]? = some p :=
          ⟨_, List.getElem?_eq_getElem hnext.2.2⟩
        rw [sendOrder, if_neg (by rw [huncertain]; exact Bool.false_ne_true)]
        dsimp only
        rw [if_pos (by simp [hauto, hnext.2.1]), advanceToNextPlace, hp]
        refine ⟨_, _, rfl, Or.inl ⟨?_, ⟨p, hp, rfl⟩, rfl⟩⟩
        simp [isNotFound, hnext.2.1]
      · refine ⟨_, _, sendOrder_refused huncertain hnext, Or.inr ⟨rfl, (fun h => by cases h), ?_⟩⟩
        intro hmissing
        have hcategory : e.category = .notFound := by simpa [isNotFound] using hmissing
        exact not_lt.mp fun hlt => hnext ⟨hauto, hcategory, hlt⟩

/-- No other call touches the places, or makes an order PENDING that was not. -/
theorem outcome_keeps (hcaller : c.caller ≠ .send)
    (h : c.outcome ps o = .ok (places, some o')) :
    places = ps ∧ (o'.status = .pending → o.status = .pending) := by
  have hread : ∀ {default : OrderStatus} {body : Body} {read : Order},
      o.read default body = .ok read → (default = .pending → o.status = .pending) →
      read.status = .pending → o.status = .pending := by
    intro default body read hread hdefault hpending
    by_cases hd : default = .pending
    · exact hdefault hd
    · exact absurd hpending (read_ne_pending hread hd)
  obtain ⟨caller, k, answer⟩ := c
  cases caller with
  | send => exact absurd rfl hcaller
  | reconcile =>
    obtain ⟨r, hrec, heq⟩ := except_map_ok.mp h
    cases heq
    refine ⟨rfl, ?_⟩
    rcases answer with exc | ⟨body, code⟩ | ⟨e, code⟩
    · cases hrec
    · obtain ⟨read, hr, hrec⟩ := except_bind_ok.mp hrec
      cases hrec
      show read.status = .pending → _
      exact hread hr fun h => by cases h
    · rw [reconcileOrder] at hrec
      split at hrec
      · cases hrec
      · cases hrec
        intro h
        cases h
  | check =>
    obtain ⟨r, hcheck, heq⟩ := except_map_ok.mp h
    cases heq
    refine ⟨rfl, ?_⟩
    rcases answer with exc | ⟨body, code⟩ | ⟨e, code⟩
    · cases hcheck
    · obtain ⟨read, hr, hcheck⟩ := except_bind_ok.mp hcheck
      cases hcheck
      show read.status = .pending → _
      exact hread hr id
    · cases hcheck
      exact id
  | refresh =>
    obtain ⟨r, hrefresh, heq⟩ := except_map_ok.mp h
    cases heq
    refine ⟨rfl, ?_⟩
    rcases answer with exc | ⟨body, code⟩ | ⟨e, code⟩
    · cases hrefresh
    · obtain ⟨read, hr, hrefresh⟩ := except_bind_ok.mp hrefresh
      cases hrefresh
      show read.status = .pending → _
      exact hread hr id
    · cases hrefresh
      exact id
  | cancel =>
    obtain ⟨hplaces, hcancel⟩ := Prod.mk.inj (Except.ok.inj h)
    refine ⟨hplaces.symm, ?_⟩
    rcases answer with exc | ⟨body, code⟩ | ⟨e, code⟩
    · cases hcancel
    · rw [cancelOrder] at hcancel
      split at hcancel
      · cases hcancel
      · cases hcancel
        intro h
        cases h
    · cases hcancel

/-! ### The invariant -/

/-- What is known after any calls for a batch of `n` orders: the place is a candidate, and those
before it have failed; each order that is not waiting any more, and each change of the place,
accounts for one create call. -/
structure Searched (candidates : List Place) (n : Nat) (s : Search) : Prop where
  auto : s.ledger.places.autoPlace = true
  known : s.ledger.places.candidates = candidates
  active : ∃ p, candidates[s.ledger.places.attemptIndex]? = some p ∧
    s.ledger.places.placeId = p.placeId
  failed : ∀ place < s.ledger.places.attemptIndex, Failed s.tries place
  notLater : ∀ t ∈ s.tries, t.place ≤ s.ledger.places.attemptIndex
  inOrder : InOrder candidates s.tries
  counted : s.tries.length + s.ledger.orders.count (fun _ o => o.status == .pending) ≤
    n + s.ledger.places.attemptIndex

variable {candidates : List Place} {n : Nat}

theorem Failed.mono {tries tries' : List Try} {place : Nat} (h : Failed tries place)
    (hsub : tries ⊆ tries') : Failed tries' place := by
  obtain ⟨t, ht, hplace, hmissing⟩ := h
  exact ⟨t, hsub ht, hplace, hmissing⟩

/-- A call that sends nothing. -/
theorem take_of_idle (h : ¬ (c.caller = .send ∧ ∃ o, s.ledger.orders.get? c.order = some o ∧
    o.status = .pending)) : (s.take c).tries = s.tries := by
  show s.ledger.creating c ++ s.tries = s.tries
  rw [Ledger.creating]
  split
  · next o hcaller hget =>
    rw [if_neg fun hpending => h ⟨hcaller, o, hget, hpending⟩]
    rfl
  · rfl

/-- **A call that creates nothing** leaves the search where it is. -/
theorem Searched.idle (h : Searched candidates n s)
    (hidle : ¬ (c.caller = .send ∧ ∃ o, s.ledger.orders.get? c.order = some o ∧
      o.status = .pending)) : Searched candidates n (s.take c) := by
  have htries := take_of_idle hidle
  have hstep : (s.take c).ledger.places = s.ledger.places ∧
      (s.take c).ledger.orders.count (fun _ o => o.status == .pending) ≤
        s.ledger.orders.count (fun _ o => o.status == .pending) := by
    show (step s.ledger c).places = _ ∧ (step s.ledger c).orders.count _ ≤ _
    rw [step]
    rcases hget : s.ledger.orders.get? c.order with - | o
    · exact ⟨rfl, le_refl _⟩
    · dsimp only
      split
      · next hsel =>
        have hcaller : c.caller ≠ .send := by
          intro hcaller
          rw [hcaller] at hsel
          exact hidle ⟨hcaller, o, hget, beq_iff_eq.mp hsel⟩
        rcases hout : c.outcome s.ledger.places o with e | ⟨places, - | o'⟩
        · exact ⟨rfl, le_refl _⟩
        · refine ⟨?_, le_refl _⟩
          obtain ⟨caller, k, answer⟩ := c
          cases caller with
          | send => exact absurd rfl hcaller
          | cancel => exact (Prod.mk.inj (Except.ok.inj hout)).1.symm
          | reconcile | check | refresh =>
            obtain ⟨r, -, heq⟩ := except_map_ok.mp hout
            exact (Prod.mk.inj heq).1.symm
        · obtain ⟨hplaces, hpending⟩ := outcome_keeps hcaller hout
          refine ⟨hplaces, Table.count_le ?_⟩
          intro k a hk ha
          rw [Table.get?_set hget] at hk
          split at hk
          · next hkc =>
            subst hkc
            cases hk
            exact ⟨o, hget, beq_iff_eq.mpr (hpending (beq_iff_eq.mp ha))⟩
          · exact ⟨a, hk, ha⟩
      · exact ⟨rfl, le_refl _⟩
  obtain ⟨hplaces, hcount⟩ := hstep
  constructor
  · rw [hplaces]
    exact h.auto
  · rw [hplaces]
    exact h.known
  · rw [hplaces]
    exact h.active
  · rw [hplaces, htries]
    exact h.failed
  · rw [hplaces, htries]
    exact h.notLater
  · rw [htries]
    exact h.inOrder
  · rw [hplaces, htries]
    exact (Nat.add_le_add_left hcount _).trans h.counted

/-- The try a create call adds. -/
def Search.trying (s : Search) (c : Call) : Try :=
  ⟨c.order, s.ledger.places.attemptIndex, s.ledger.places.placeId, c.answer⟩

/-- A create call whose answer is stored. -/
theorem take_of_send (hcaller : c.caller = .send) (hget : s.ledger.orders.get? c.order = some o)
    (hpending : o.status = .pending)
    (hsend : sendOrder s.ledger.places o c.answer = .ok (places, o')) :
    (s.take c).tries = s.trying c :: s.tries ∧ (s.take c).ledger.places = places ∧
      (s.take c).ledger.orders = s.ledger.orders.set c.order o' := by
  have hout : c.outcome s.ledger.places o = .ok (places, some o') := by
    rw [Call.outcome, hcaller]
    dsimp only
    rw [hsend]
    rfl
  have hsel : c.caller.selects o.status = true := by
    rw [hcaller, hpending]
    rfl
  refine ⟨?_, ?_, ?_⟩
  · show s.ledger.creating c ++ s.tries = _
    rw [Ledger.creating, hcaller, hget]
    dsimp only
    rw [if_pos hpending]
    rfl
  · show (step s.ledger c).places = places
    rw [step, hget]
    dsimp only
    rw [if_pos hsel, hout]
  · show (step s.ledger c).orders = _
    rw [step, hget]
    dsimp only
    rw [if_pos hsel, hout]

/-- A try at the active place keeps the order. -/
theorem Searched.inOrder_trying (h : Searched candidates n s) (c : Call) :
    InOrder candidates (s.trying c :: s.tries) :=
  ⟨h.active, h.failed, h.notLater, h.inOrder⟩

/-- **A create call** tries the active place and, if it goes on, has seen it fail. -/
theorem Searched.send (h : Searched candidates n s) (hcaller : c.caller = .send)
    (hget : s.ledger.orders.get? c.order = some o) (hpending : o.status = .pending)
    (hsend : sendOrder s.ledger.places o c.answer = .ok (places, o'))
    (hcases : Advances s.ledger.places places c.answer o' ∨
      Stays s.ledger.places places c.answer o') : Searched candidates n (s.take c) := by
  obtain ⟨htries, hplaces, horders⟩ := take_of_send hcaller hget hpending hsend
  have hsub : s.tries ⊆ s.trying c :: s.tries := List.subset_cons_self _ _
  have hcounted := h.counted
  rcases hcases with ⟨hmissing, ⟨p, hp, rfl⟩, -⟩ | ⟨rfl, hsent, -⟩
  · -- the next place; the order waits as before
    have hcount : (s.ledger.orders.set c.order o').count (fun _ o => o.status == .pending) ≤
        s.ledger.orders.count (fun _ o => o.status == .pending) := by
      apply Table.count_le
      intro k a hk ha
      rw [Table.get?_set hget] at hk
      split at hk
      · next hkc =>
        subst hkc
        exact ⟨o, hget, beq_iff_eq.mpr hpending⟩
      · exact ⟨a, hk, ha⟩
    have hfailed : Failed (s.trying c :: s.tries) s.ledger.places.attemptIndex :=
      ⟨s.trying c, List.mem_cons_self .., rfl, hmissing⟩
    constructor
    · rw [hplaces]
      exact h.auto
    · rw [hplaces]
      exact h.known
    · rw [hplaces]
      rw [h.known] at hp
      exact ⟨p, hp, rfl⟩
    · rw [hplaces, htries]
      intro place hplace
      rcases Nat.lt_succ_iff_lt_or_eq.mp hplace with hlt | rfl
      · exact (h.failed place hlt).mono hsub
      · exact hfailed
    · rw [hplaces, htries]
      intro t ht
      rcases List.mem_cons.mp ht with rfl | ht
      · exact Nat.le_succ _
      · exact (h.notLater t ht).trans (Nat.le_succ _)
    · rw [htries]
      exact h.inOrder_trying c
    · rw [hplaces, htries, horders, List.length_cons]
      dsimp only
      omega
  · -- the order waits no longer
    have hcount : (s.ledger.orders.set c.order o').count (fun _ o => o.status == .pending) <
        s.ledger.orders.count (fun _ o => o.status == .pending) := by
      apply Table.count_lt (k := c.order) _ hget (beq_iff_eq.mpr hpending)
      · intro a ha
        rw [Table.get?_set_self hget] at ha
        cases ha
        exact beq_eq_false_iff_ne.mpr hsent
      · intro k a hk ha
        rw [Table.get?_set hget] at hk
        split at hk
        · cases hk
          exact absurd (beq_iff_eq.mp ha) hsent
        · exact ⟨a, hk, ha⟩
    constructor
    · rw [hplaces]
      exact h.auto
    · rw [hplaces]
      exact h.known
    · rw [hplaces]
      exact h.active
    · rw [hplaces, htries]
      intro place hplace
      exact (h.failed place hplace).mono hsub
    · rw [hplaces, htries]
      intro t ht
      rcases List.mem_cons.mp ht with rfl | ht
      · exact le_refl _
      · exact h.notLater t ht
    · rw [htries]
      exact h.inOrder_trying c
    · rw [hplaces, htries, horders, List.length_cons]
      omega

/-- **Step.** -/
theorem searched_take (h : Searched candidates n s) (hstorable : c.Storable s) :
    Searched candidates n (s.take c) := by
  by_cases hcreates : c.caller = .send ∧ ∃ o, s.ledger.orders.get? c.order = some o ∧
      o.status = .pending
  · obtain ⟨hcaller, o, hget, hpending⟩ := hcreates
    obtain ⟨places, o', hsend, hcases⟩ :=
      sendOrder_cases h.auto o fun body code => hstorable body code hcaller
    exact h.send hcaller hget hpending hsend hcases
  · exact h.idle hcreates

/-- An order that is ended as not found was at the last candidate. -/
theorem Searched.thorough (h : Searched candidates n s) (hstorable : c.Storable s) :
    s.Thorough c := by
  rintro ⟨hmissing, o, o', hget, hnot, hget', herror⟩
  obtain ⟨-, hsel, places, hout⟩ := step_changed hget hget' fun heq => hnot (heq ▸ herror)
  have hcaller : c.caller = .send ∨ c.caller = .reconcile := by
    rcases error_cases hout hnot herror with hreport | ⟨e, code, -, -, hcaller⟩
    · -- a report is about the order itself
      rcases hanswer : c.answer with exc | ⟨body, code⟩ | ⟨e, code⟩
      · rw [hanswer] at hmissing
        cases hmissing
      · rw [hanswer] at hmissing
        cases hmissing
      · obtain ⟨caller, k, answer⟩ := c
        cases caller with
        | send => exact Or.inl rfl
        | reconcile => exact Or.inr rfl
        | check =>
          cases hanswer
          cases hout
          exact absurd herror hnot
        | refresh =>
          cases hanswer
          cases hout
          exact absurd herror hnot
        | cancel =>
          cases hanswer
          cases hout
    · exact hcaller.symm.imp And.left id
  rcases hcaller with hcaller | hcaller
  · left
    refine ⟨hcaller, ?_⟩
    have hpending : o.status = .pending := by
      rw [hcaller] at hsel
      exact beq_iff_eq.mp hsel
    obtain ⟨places', o'', hsend, hcases⟩ :=
      sendOrder_cases h.auto o fun body code => hstorable body code hcaller
    obtain ⟨htries, hplaces, horders⟩ := take_of_send hcaller hget hpending hsend
    have hsame : o'' = o' := by
      rw [horders, Table.get?_set_self hget] at hget'
      exact Option.some.inj hget'
    subst hsame
    rcases hcases with hadvances | hstays
    · rw [hadvances.pending] at herror
      cases herror
    · have hlast := hstays.last hmissing
      intro place hplace
      rw [hplaces, hstays.same] at hplace
      rw [htries]
      rcases Nat.lt_or_ge place s.ledger.places.attemptIndex with hlt | hge
      · exact (h.failed place hlt).mono (List.subset_cons_self _ _)
      · have hactive : place = s.ledger.places.attemptIndex := by omega
        exact ⟨s.trying c, List.mem_cons_self .., hactive.symm, hmissing⟩
  · exact Or.inr hcaller

/-! ### Runs -/

theorem count_newOrders (n : Nat) :
    (newOrders n).count (fun _ o => o.status == .pending) = n := by
  induction n with
  | zero => rfl
  | succ n ih => rw [newOrders, Table.count_create, ih]; rfl

/-- A new batch. -/
theorem searched_newSearch (first : Place) (others : List Place) (n : Nat) :
    Searched (first :: others) n (newSearch first others n) where
  auto := rfl
  known := rfl
  active := ⟨first, rfl, rfl⟩
  failed := fun place h => absurd h (Nat.not_lt_zero place)
  notLater := fun t ht => absurd ht List.not_mem_nil
  inOrder := trivial
  counted := by
    show 0 + (newOrders n).count _ ≤ n + 0
    rw [count_newOrders]
    omega

/-- **The search of a batch.**  Whatever is called for a new batch, as long as the answers to the
create calls can be stored: an order is ended as not found by a create call only when every
candidate has failed, the candidates are tried in order, and the create calls are at most the
orders and the candidates together. -/
theorem search_exhaustive (first : Place) (others : List Place) (n : Nat) (calls : List Call)
    (h : Along Search.take (fun s c => c.Storable s) (newSearch first others n) calls) :
    Along Search.take Search.Thorough (newSearch first others n) calls ∧
      Always Search.take (fun s => InOrder (first :: others) s.tries ∧
        s.tries.length ≤ n + (first :: others).length) (newSearch first others n) calls := by
  have hinit := searched_newSearch first others n
  constructor
  · exact along_of_along (fun s c => searched_take) (fun s c => Searched.thorough) hinit h
  · apply (always_of_along (fun s c => searched_take) hinit h).mono
    intro s hs
    refine ⟨hs.inOrder, ?_⟩
    obtain ⟨p, hp, -⟩ := hs.active
    have hlt := (List.getElem?_eq_some_iff.mp hp).1
    have hcounted := hs.counted
    omega

section Inputs

/-- An answer NOT_FOUND. -/
def gamepassNotFound : Answer :=
  .ok (.failure ⟨.notFound, "GAMEPASS_NOT_FOUND", some 404, false, {}, ""⟩ (some 404))

/-- Two orders and two places: the first order does not find the first place, the second one
not the second, and the first is then sent for the second. -/
def twoOrders : List Call :=
  [⟨.send, 0, gamepassNotFound⟩, ⟨.send, 1, gamepassNotFound⟩,
    ⟨.send, 0, .ok (.success (.object (some (.text "queued")) none) none)⟩]

theorem search_exhaustive_twoOrders :
    Along Search.take Search.Thorough (newSearch ⟨1, "A"⟩ [⟨2, "B"⟩] 2) twoOrders ∧
      Always Search.take (fun s => InOrder [⟨1, "A"⟩, ⟨2, "B"⟩] s.tries ∧
          s.tries.length ≤ 2 + [Place.mk 1 "A", ⟨2, "B"⟩].length)
        (newSearch ⟨1, "A"⟩ [⟨2, "B"⟩] 2) twoOrders := by
  apply search_exhaustive ⟨1, "A"⟩ [⟨2, "B"⟩] 2 twoOrders
  refine ⟨?_, ?_, ?_, trivial⟩
  · intro body code _ hanswer
    cases hanswer
  · intro body code _ hanswer
    cases hanswer
  · intro body code _ hanswer
    cases hanswer
    show "queued".length ≤ 50
    decide

/-- **As it stands the search is not thorough.**  A create call for the first of two places times
out and the reconciliation does not find the order: it ends, though neither place was answered.
And an answer without a status is not stored: one order and one place make three create calls. -/
theorem search_fails :
    ¬ Along Search.take (fun s c => s.EndsNotFound c → (s.take c).Exhausted)
        (newSearch ⟨1, "A"⟩ [⟨2, "B"⟩] 1)
        [⟨.send, 0, .ok (.failure ⟨.timeout, "timed out", none, true, {}, ""⟩)⟩,
          ⟨.reconcile, 0, gamepassNotFound⟩] ∧
      1 + [Place.mk 1 "A"].length < (run Search.take (newSearch ⟨1, "A"⟩ [] 1)
        (List.replicate 3 ⟨.send, 0, .ok (.success (.object (some .null) none) (some 200))⟩)
        ).tries.length := by
  constructor
  · rintro ⟨-, h, -⟩
    obtain ⟨t, ht, -, hmissing⟩ := h ⟨rfl, _, _, rfl, by decide, rfl, rfl⟩ 0 (by decide)
    cases List.mem_singleton.mp ht
    cases hmissing
  · decide

end Inputs

end Sda.Robux
