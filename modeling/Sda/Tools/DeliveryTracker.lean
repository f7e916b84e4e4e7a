/-
Sda/Tools/DeliveryTracker.lean

The delivery tracker of dropshipped items: a Telegram bot between two teams.

A job (`runJob`) reads the button presses that Telegram holds, tracks the new orders, buys
each of them once from its source, tells the teams, and reminds them of what they left.  A run
is any interleaving of presses and jobs.  A job may fail at every write, and so may every
request: the database, the shop and Telegram are answers of the job.  Telegram keeps a press
until a request with a later offset has come through.

Main results: `bought_once` — no order is bought, announced or tracked twice; `history_kept` —
what was done is never undone and says who did it; `press_not_lost` — a press that Telegram no
longer holds has taken effect; `unannounced_forgotten` — an order whose announcement did not
get through is never mentioned again.
-/
import Sda.Lib.Run
import Sda.Lib.Table
import Mathlib.Data.List.Pairwise

namespace Sda.DeliveryTracker

/-! ### The rows -/

inductive DeliveryState
  | pendingEldorado
  | eldoradoDone
  | fullyDelivered
  | cancelled
  deriving DecidableEq

/-- `DropshipDeliveryTracking` -/
structure Tracking where
  order : Nat
  state : DeliveryState := .pendingEldorado
  telegramMessageId : Option Int := none
  notifiedAt : Option Nat := none
  lastRemindedAt : Option Nat := none
  eldoradoDoneBy : String := ""
  eldoradoDoneAt : Option Nat := none
  gbDoneBy : String := ""
  gbDoneAt : Option Nat := none

structure DropshipProduct where
  sourceUrl : String
  sourceProductId : String

/-- `_extract_offer_id` -/
def extractOfferId (dp : DropshipProduct) : Option String :=
  if "eldorado:".toList.isPrefixOf dp.sourceUrl.toList then
    some (String.ofList (dp.sourceUrl.toList.drop 9))
  else if dp.sourceProductId = "" then none
  else some dp.sourceProductId

structure Order where
  id : Nat
  dropshipProduct : DropshipProduct

/-! ### The buttons -/

/-- The data of a button. -/
inductive Press
  | noop
  | eldoDone (id : Nat)
  | gbDone (id : Nat)

/-- The row that a button names. -/
def Press.row : Press → Option Nat
  | .noop => none
  | .eldoDone id => some id
  | .gbDone id => some id

/-- An update, with the name that the code takes for the user. -/
structure Update where
  id : Nat
  press : Press
  username : String

/-! ### A job -/

/-- What `_auto_buy_eldorado` answers, or that the job raises on reading it. -/
inductive BuyAnswer
  | ok (orderId : String)
  | failed
  | raised

/-- The places where a job may raise. -/
inductive Point
  | press (update : Nat)
  | told (update : Nat)
  | create (order : Nat)
  | bought (order : Nat)
  | compose (order : Nat)
  | notified (order : Nat)
  | reminded (id : Nat)

/-- A job: the orders that its query finds, and what it is answered. -/
structure Job where
  now : Nat
  polled : Bool
  confirmed : Bool
  orders : List Order
  buy : Nat → BuyAnswer
  message : Nat → Option Int
  fails : Point → Bool

/-- The rows, the updates that Telegram holds, and what was done so far: the presses, the
orders that were bought and announced, the rows that the teams were reminded of. -/
structure State where
  rows : Table Tracking
  inbox : List Update
  nextUpdate : Nat
  pressed : List Update
  buys : List Nat
  notices : List Nat
  reminders : List Nat

def State.start : State := ⟨Table.empty, [], 0, [], [], [], []⟩

/-- The change of a row by a press, if there is one. -/
def pressRow (now : Nat) (u : Update) (r : Tracking) : Option Tracking :=
  match u.press with
  | .noop => none
  | .eldoDone _ =>
    if r.state = .pendingEldorado then
      some { r with
        state := .eldoradoDone
        eldoradoDoneBy := u.username
        eldoradoDoneAt := some now }
    else none
  | .gbDone _ =>
    if r.state = .pendingEldorado ∨ r.state = .eldoradoDone then
      some { r with
        state := .fullyDelivered
        eldoradoDoneBy :=
          if r.eldoradoDoneAt.isSome then r.eldoradoDoneBy else u.username ++ " (via GB)"
        eldoradoDoneAt := r.eldoradoDoneAt.or (some now)
        gbDoneBy := u.username
        gbDoneAt := some now }
    else none

/-- One turn of the loop of `_process_callback_updates`; `false` if it raises, before the
row is saved or behind that. -/
def applyUpdate (j : Job) (u : Update) (rows : Table Tracking) : Bool × Table Tracking :=
  match u.press.row with
  | none => (true, rows)
  | some i =>
    match rows.get? i with
    | none => (true, rows)
    | some r =>
      match pressRow j.now u r with
      | none => (true, rows)
      | some r' =>
        if j.fails (.press u.id) then (false, rows)
        else (!j.fails (.told u.id), rows.set i r')

/-- The loop, and whether it came to its end. -/
def applyUpdates (j : Job) : List Update → Table Tracking → Bool × Table Tracking
  | [], rows => (true, rows)
  | u :: us, rows =>
    match applyUpdate j u rows with
    | (false, rows') => (false, rows')
    | (true, rows') => applyUpdates j us rows'

/-- `_process_callback_updates`: at most a hundred updates, which are confirmed behind the
last one. -/
def processCallbackUpdates (j : Job) (s : State) : Bool × State :=
  if j.polled = false then (true, s)
  else
    match (s.inbox.take 100).getLast? with
    | none => (true, s)
    | some last =>
      match applyUpdates j (s.inbox.take 100) s.rows with
      | (false, rows) => (false, { s with rows := rows })
      | (true, rows) =>
        (true,
          { s with
            rows := rows
            inbox := if j.confirmed then s.inbox.filter (last.id < ·.id) else s.inbox })

def updateRow (i : Nat) (f : Tracking → Tracking) (s : State) : State :=
  { s with rows := s.rows.updateWhere (fun k _ => k == i) f }

/-- The purchase of a new order. -/
def autoBuy (j : Job) (o : Order) (i : Nat) (s : State) : Bool × State :=
  if (extractOfferId o.dropshipProduct).getD "" = "" then (true, s)
  else
    let s := { s with buys := s.buys ++ [o.id] }
    match j.buy o.id with
    | .raised => (false, s)
    | .failed => (true, s)
    | .ok orderId =>
      if j.fails (.bought o.id) then (false, s)
      else
        (true, updateRow i (fun r =>
          { r with
            state := .eldoradoDone
            eldoradoDoneBy := "AutoBot (orderId=" ++ orderId ++ ")"
            eldoradoDoneAt := some j.now }) s)

/-- The announcement of a new order. -/
def announce (j : Job) (o : Order) (i : Nat) (s : State) : Bool × State :=
  if j.fails (.compose o.id) then (false, s)
  else
    let s := { s with notices := s.notices ++ [o.id] }
    match j.message o.id with
    | none => (true, s)
    | some messageId =>
      if messageId = 0 then (true, s)
      else if j.fails (.notified o.id) then (false, s)
      else
        (true, updateRow i (fun r =>
          { r with telegramMessageId := some messageId, notifiedAt := some j.now }) s)

def State.tracks (s : State) (order : Nat) : Bool := s.rows.any fun _ r => r.order == order

/-- One turn of the loop of `_detect_new_orders`. -/
def track (j : Job) (o : Order) (s : State) : Bool × State :=
  if s.tracks o.id || j.fails (.create o.id) then (false, s)
  else
    match autoBuy j o s.rows.nextKey { s with rows := s.rows.create { order := o.id } } with
    | (false, s') => (false, s')
    | (true, s') => announce j o s.rows.nextKey s'

def trackAll (j : Job) : List Order → State → Bool × State
  | [], s => (true, s)
  | o :: os, s =>
    match track j o s with
    | (false, s') => (false, s')
    | (true, s') => trackAll j os s'

def detectNewOrders (j : Job) (s : State) : Bool × State :=
  trackAll j (j.orders.filter fun o => !s.tracks o.id) s

/-- A row that `_send_reminders` selects, two hours after its announcement. -/
def isDue (j : Job) (r : Tracking) : Bool :=
  (r.state == .pendingEldorado || r.state == .eldoradoDone) &&
    r.notifiedAt.any (· + 7200 < j.now) && r.lastRemindedAt.isNone

def remindEach (j : Job) : List (Nat × Tracking) → State → State
  | [], s => s
  | (i, _) :: rest, s =>
    let s := { s with reminders := s.reminders ++ [i] }
    if j.fails (.reminded i) then s
    else remindEach j rest (updateRow i (fun r => { r with lastRemindedAt := some j.now }) s)

def sendReminders (j : Job) (s : State) : State :=
  remindEach j (s.rows.select fun _ r => isDue j r) s

/-- **`run_item_dropship_delivery_tracker`**, with what it leaves when it raises. -/
def runJob (j : Job) (s : State) : State :=
  match processCallbackUpdates j s with
  | (false, s') => s'
  | (true, s') =>
    match detectNewOrders j s' with
    | (false, s'') => s''
    | (true, s'') => sendReminders j s''

/-- What happens: somebody presses a button, or a job runs. -/
inductive Event
  | press (p : Press) (username : String)
  | job (j : Job)

/-- A button is there once its row is. -/
def step (s : State) : Event → State
  | .press p username =>
    if p.row.all (fun i => (s.rows.get? i).isSome) then
      { s with
        inbox := s.inbox ++ [⟨s.nextUpdate, p, username⟩]
        nextUpdate := s.nextUpdate + 1
        pressed := s.pressed ++ [⟨s.nextUpdate, p, username⟩] }
    else s
  | .job j => runJob j s

/-! ### The history of a row -/

/-- How far an order is. -/
def DeliveryState.rank : DeliveryState → Nat
  | .pendingEldorado => 0
  | .eldoradoDone => 1
  | .fullyDelivered => 2
  | .cancelled => 3

/-- The steps of a row that are done, and that they are noted. -/
structure RowOk (r : Tracking) : Prop where
  live : r.state ≠ .cancelled
  eldorado : r.state = .pendingEldorado ↔ r.eldoradoDoneAt = none
  gb : r.state = .fullyDelivered ↔ r.gbDoneAt ≠ none

/-- What a row says later: no step is undone, and who did it when does not change. -/
structure Later (r r' : Tracking) : Prop where
  order : r'.order = r.order
  message : r'.telegramMessageId = r.telegramMessageId ∧ r'.notifiedAt = r.notifiedAt
  state : r.state.rank ≤ r'.state.rank
  eldorado : r.eldoradoDoneAt ≠ none →
    r'.eldoradoDoneAt = r.eldoradoDoneAt ∧ r'.eldoradoDoneBy = r.eldoradoDoneBy
  gb : r.gbDoneAt ≠ none → r'.gbDoneAt = r.gbDoneAt ∧ r'.gbDoneBy = r.gbDoneBy

variable {s s' : State} {o : Order} {j : Job} {u : Update} {now i : Nat} {r r' : Tracking}
  {rows : Table Tracking}

theorem Later.refl (r : Tracking) : Later r r :=
  ⟨rfl, ⟨rfl, rfl⟩, Nat.le_refl _, fun _ => ⟨rfl, rfl⟩, fun _ => ⟨rfl, rfl⟩⟩

theorem Later.trans {r'' : Tracking} (h : Later r r') (h' : Later r' r'') : Later r r'' where
  order := h'.order.trans h.order
  message := ⟨h'.message.1.trans h.message.1, h'.message.2.trans h.message.2⟩
  state := h.state.trans h'.state
  eldorado hdone := by
    obtain ⟨hat, hby⟩ := h.eldorado hdone
    obtain ⟨hat', hby'⟩ := h'.eldorado (hat ▸ hdone)
    exact ⟨hat'.trans hat, hby'.trans hby⟩
  gb hdone := by
    obtain ⟨hat, hby⟩ := h.gb hdone
    obtain ⟨hat', hby'⟩ := h'.gb (hat ▸ hdone)
    exact ⟨hat'.trans hat, hby'.trans hby⟩

theorem rowOk_new (order : Nat) : RowOk { order := order } :=
  ⟨nofun, iff_of_true rfl rfl, iff_of_false nofun fun h => h rfl⟩

/-- What a press may do to a row. -/
theorem pressRow_cases (h : pressRow now u r = some r') :
    (∃ i, u.press = .eldoDone i ∧ r.state = .pendingEldorado ∧
      r' = { r with
        state := .eldoradoDone
        eldoradoDoneBy := u.username
        eldoradoDoneAt := some now }) ∨
    ∃ i, u.press = .gbDone i ∧ (r.state = .pendingEldorado ∨ r.state = .eldoradoDone) ∧
      r' = { r with
        state := .fullyDelivered
        eldoradoDoneBy :=
          if r.eldoradoDoneAt.isSome then r.eldoradoDoneBy else u.username ++ " (via GB)"
        eldoradoDoneAt := r.eldoradoDoneAt.or (some now)
        gbDoneBy := u.username
        gbDoneAt := some now } := by
  unfold pressRow at h
  cases hp : u.press with
  | noop =>
    rw [hp] at h
    cases h
  | eldoDone i =>
    rw [hp] at h
    simp only [Option.ite_none_right_eq_some, Option.some.injEq] at h
    exact Or.inl ⟨i, rfl, h.1, h.2.symm⟩
  | gbDone i =>
    rw [hp] at h
    simp only [Option.ite_none_right_eq_some, Option.some.injEq] at h
    exact Or.inr ⟨i, rfl, h.1, h.2.symm⟩

theorem gbDoneAt_of_open (hr : RowOk r) (h : r.state ≠ .fullyDelivered) : r.gbDoneAt = none := by
  by_contra hne
  exact h (hr.gb.mpr hne)

/-- A press is a step forward. -/
theorem pressRow_later (hr : RowOk r) (h : pressRow now u r = some r') : RowOk r' ∧ Later r r' := by
  rcases pressRow_cases h with ⟨i, -, hpending, rfl⟩ | ⟨i, -, hopen, rfl⟩
  · have hgb : r.gbDoneAt = none := gbDoneAt_of_open hr (by rw [hpending]; nofun)
    refine ⟨⟨nofun, iff_of_false nofun nofun, iff_of_false nofun fun hne => hne hgb⟩, rfl,
      ⟨rfl, rfl⟩, ?_, fun hne => absurd (hr.eldorado.mp hpending) hne, fun _ => ⟨rfl, rfl⟩⟩
    rw [hpending]
    exact Nat.zero_le _
  · have hgb : r.gbDoneAt = none :=
      gbDoneAt_of_open hr (by rcases hopen with h | h <;> rw [h] <;> nofun)
    refine ⟨⟨nofun, iff_of_false nofun ?_, iff_of_true rfl nofun⟩, rfl, ⟨rfl, rfl⟩, ?_, ?_,
      fun hne => absurd hgb hne⟩
    · cases r.eldoradoDoneAt <;> exact nofun
    · show r.state.rank ≤ 2
      rcases hopen with h | h <;> rw [h] <;> decide
    · intro hne
      obtain ⟨t, ht⟩ := Option.ne_none_iff_exists'.mp hne
      exact ⟨by rw [ht]; rfl, by rw [ht]; rfl⟩

/-! ### What a state says -/

/-- How far a press is to bring its row. -/
def Press.rank : Press → Nat
  | .noop => 0
  | .eldoDone _ => 1
  | .gbDone _ => 2

/-- The press has taken effect. -/
def Handled (rows : Table Tracking) (u : Update) : Prop :=
  ∀ i, u.press.row = some i → ∃ r, rows.get? i = some r ∧ u.press.rank ≤ r.state.rank

/-- Who did the steps of a row: a press of its button, or the purchase of its order. -/
structure Credited (s : State) (i : Nat) (r : Tracking) : Prop where
  eldorado : r.eldoradoDoneAt ≠ none →
    (∃ u ∈ s.pressed, u.press = .eldoDone i ∧ r.eldoradoDoneBy = u.username) ∨
    (∃ u ∈ s.pressed, u.press = .gbDone i ∧ r.eldoradoDoneBy = u.username ++ " (via GB)") ∨
    r.order ∈ s.buys ∧ ∃ orderId, r.eldoradoDoneBy = "AutoBot (orderId=" ++ orderId ++ ")"
  gb : r.gbDoneAt ≠ none → ∃ u ∈ s.pressed, u.press = .gbDone i ∧ r.gbDoneBy = u.username

/-- What holds between the events. -/
structure Inv (s : State) : Prop where
  ok : ∀ i r, s.rows.get? i = some r → RowOk r
  credited : ∀ i r, s.rows.get? i = some r → Credited s i r
  one : ∀ i j r r', s.rows.get? i = some r → s.rows.get? j = some r' →
    r.order = r'.order → i = j
  buys : s.buys.Nodup ∧ ∀ o ∈ s.buys, s.tracks o
  notices : s.notices.Nodup ∧ ∀ o ∈ s.notices, s.tracks o
  sorted : s.inbox.Pairwise (·.id < ·.id)
  fresh : ∀ u ∈ s.inbox, u.id < s.nextUpdate
  held : ∀ u ∈ s.inbox, u ∈ s.pressed
  named : ∀ u ∈ s.pressed, ∀ i, u.press.row = some i → ∃ r, s.rows.get? i = some r
  handled : ∀ u ∈ s.pressed, u ∈ s.inbox ∨ Handled s.rows u

/-- Every row is kept. -/
def Kept (rows rows' : Table Tracking) : Prop :=
  ∀ i r, rows.get? i = some r → ∃ r', rows'.get? i = some r' ∧ Later r r'

/-- What holds of a later state: the rows it keeps, and what it does not do again. -/
structure Follows (s s' : State) : Prop where
  inv : Inv s'
  kept : Kept s.rows s'.rows
  once : ∀ i r, s.rows.get? i = some r →
    s'.buys.count r.order = s.buys.count r.order ∧
    s'.notices.count r.order = s.notices.count r.order
  silent : ∀ i r, s.rows.get? i = some r → r.notifiedAt = none →
    s'.reminders.count i = s.reminders.count i

theorem Kept.refl (rows : Table Tracking) : Kept rows rows := fun _ r h => ⟨r, h, Later.refl r⟩

theorem Kept.trans {a b c : Table Tracking} (h : Kept a b) (h' : Kept b c) : Kept a c := by
  intro i r hr
  obtain ⟨r', hr', hl⟩ := h i r hr
  obtain ⟨r'', hr'', hl'⟩ := h' i r' hr'
  exact ⟨r'', hr'', hl.trans hl'⟩

theorem Handled.mono {a b : Table Tracking} (h : Handled a u) (hk : Kept a b) : Handled b u := by
  intro i hi
  obtain ⟨r, hr, hrank⟩ := h i hi
  obtain ⟨r', hr', hl⟩ := hk i r hr
  exact ⟨r', hr', hrank.trans hl.state⟩

theorem Credited.mono (h : Credited s i r) (hp : s.pressed ⊆ s'.pressed)
    (hb : s.buys ⊆ s'.buys) : Credited s' i r where
  eldorado hdone := by
    rcases h.eldorado hdone with ⟨u, hu, heq⟩ | ⟨u, hu, heq⟩ | ⟨ho, heq⟩
    · exact Or.inl ⟨u, hp hu, heq⟩
    · exact Or.inr (Or.inl ⟨u, hp hu, heq⟩)
    · exact Or.inr (Or.inr ⟨hb ho, heq⟩)
  gb hdone := by
    obtain ⟨u, hu, heq⟩ := h.gb hdone
    exact ⟨u, hp hu, heq⟩

theorem Follows.refl (h : Inv s) : Follows s s :=
  ⟨h, Kept.refl _, fun _ _ _ => ⟨rfl, rfl⟩, fun _ _ _ _ => rfl⟩

theorem Follows.trans {s'' : State} (h : Follows s s') (h' : Follows s' s'') : Follows s s'' where
  inv := h'.inv
  kept := h.kept.trans h'.kept
  once i r hr := by
    obtain ⟨r', hr', hl⟩ := h.kept i r hr
    obtain ⟨hb, hn⟩ := h.once i r hr
    obtain ⟨hb', hn'⟩ := h'.once i r' hr'
    rw [hl.order] at hb' hn'
    exact ⟨hb'.trans hb, hn'.trans hn⟩
  silent i r hr hnone := by
    obtain ⟨r', hr', hl⟩ := h.kept i r hr
    exact (h'.silent i r' hr' (hl.message.2.trans hnone)).trans (h.silent i r hr hnone)

theorem tracks_iff {o : Nat} :
    s.tracks o = true ↔ ∃ i r, s.rows.get? i = some r ∧ r.order = o := by
  unfold State.tracks
  simp only [Table.any_iff, beq_iff_eq]

theorem tracks_mono {o : Nat} (hk : Kept s.rows s'.rows) (h : s.tracks o = true) :
    s'.tracks o = true := by
  obtain ⟨i, r, hr, ho⟩ := tracks_iff.mp h
  obtain ⟨r', hr', hl⟩ := hk i r hr
  exact tracks_iff.mpr ⟨i, r', hr', hl.order.trans ho⟩

/-! ### The presses -/

theorem kept_set (hr : rows.get? i = some r) (hl : Later r r') : Kept rows (rows.set i r') := by
  intro k q hq
  rw [Table.get?_set hr]
  by_cases hk : k = i
  · subst hk
    rw [hr] at hq
    cases hq
    exact ⟨r', if_pos rfl, hl⟩
  · exact ⟨q, (if_neg hk).trans hq, Later.refl q⟩

/-- A press that changes its row has brought it as far as it is to. -/
theorem rank_of_pressRow (h : pressRow now u r = some r') : u.press.rank ≤ r'.state.rank := by
  rcases pressRow_cases h with ⟨i, hp, -, rfl⟩ | ⟨i, hp, -, rfl⟩
  · rw [hp]
    exact Nat.le_refl 1
  · rw [hp]
    exact Nat.le_refl 2

/-- A press that does nothing finds its row as far as that. -/
theorem rank_of_pressRow_none (h : pressRow now u r = none) : u.press.rank ≤ r.state.rank := by
  unfold pressRow at h
  cases hp : u.press with
  | noop => exact Nat.zero_le _
  | eldoDone i =>
    rw [hp] at h
    cases hs : r.state <;> simp_all [Press.rank, DeliveryState.rank]
  | gbDone i =>
    rw [hp] at h
    cases hs : r.state <;> simp_all [Press.rank, DeliveryState.rank]

theorem pressRow_credited (hu : u ∈ s.pressed) (hi : u.press.row = some i) (hc : Credited s i r)
    (h : pressRow now u r = some r') : Credited s i r' := by
  rcases pressRow_cases h with ⟨k, hp, -, rfl⟩ | ⟨k, hp, -, rfl⟩
  · rw [hp] at hi
    cases hi
    exact ⟨fun _ => Or.inl ⟨u, hu, hp, rfl⟩, hc.gb⟩
  · rw [hp] at hi
    cases hi
    refine ⟨fun _ => ?_, fun _ => ⟨u, hu, hp, rfl⟩⟩
    cases hat : r.eldoradoDoneAt with
    | none => exact Or.inr (Or.inl ⟨u, hu, hp, by simp⟩)
    | some t => simpa using hc.eldorado (by rw [hat]; exact Option.some_ne_none t)

/-- What a loop makes of the rows. -/
structure Moved (s : State) (rows : Table Tracking) : Prop where
  ok : ∀ i r, rows.get? i = some r → RowOk r
  credited : ∀ i r, rows.get? i = some r → Credited s i r
  kept : Kept s.rows rows
  old : ∀ i r, rows.get? i = some r → ∃ q, s.rows.get? i = some q

theorem Inv.moved (h : Inv s) : Moved s s.rows :=
  ⟨h.ok, h.credited, Kept.refl _, fun _ r hr => ⟨r, hr⟩⟩

theorem Moved.set (h : Moved s rows) (hu : u ∈ s.pressed) (hi : u.press.row = some i)
    (hr : rows.get? i = some r) (hpress : pressRow now u r = some r') :
    Moved s (rows.set i r') := by
  obtain ⟨hok, hl⟩ := pressRow_later (h.ok i r hr) hpress
  refine ⟨fun k q hq => ?_, fun k q hq => ?_, h.kept.trans (kept_set hr hl), fun k q hq => ?_⟩
  all_goals
    rw [Table.get?_set hr] at hq
    by_cases hk : k = i
  · rw [if_pos hk] at hq
    cases hq
    exact hok
  · rw [if_neg hk] at hq
    exact h.ok k q hq
  · rw [if_pos hk] at hq
    cases hq
    subst hk
    exact pressRow_credited hu hi (h.credited k r hr) hpress
  · rw [if_neg hk] at hq
    exact h.credited k q hq
  · subst hk
    exact h.old k r hr
  · rw [if_neg hk] at hq
    exact h.old k q hq

/-- One turn of the loop. -/
theorem applyUpdate_pressed (hs : Inv s) (hu : u ∈ s.pressed) (h : Moved s rows) :
    Moved s (applyUpdate j u rows).2 ∧ Kept rows (applyUpdate j u rows).2 ∧
      ((applyUpdate j u rows).1 = true → Handled (applyUpdate j u rows).2 u) := by
  unfold applyUpdate
  cases hi : u.press.row with
  | none => exact ⟨h, Kept.refl _, fun _ k hk => by rw [hi] at hk; cases hk⟩
  | some i =>
    obtain ⟨q, hq⟩ := hs.named u hu i hi
    obtain ⟨r, hr, -⟩ := h.kept i q hq
    simp only [hr]
    cases hpress : pressRow j.now u r with
    | none =>
      refine ⟨h, Kept.refl _, fun _ k hk => ?_⟩
      rw [hi] at hk
      cases hk
      exact ⟨r, hr, rank_of_pressRow_none hpress⟩
    | some r' =>
      by_cases hf : j.fails (.press u.id) = true
      · simp only [hf]
        exact ⟨h, Kept.refl _, nofun⟩
      · simp only [hf]
        refine ⟨h.set hu hi hr hpress, kept_set hr (pressRow_later (h.ok i r hr) hpress).2, ?_⟩
        intro _ k hk
        rw [hi] at hk
        cases hk
        exact ⟨r', Table.get?_set_self hr, rank_of_pressRow hpress⟩

/-- The loop: induction on the updates, with what the last turns have handled kept. -/
theorem applyUpdates_pressed (hs : Inv s) :
    ∀ (us : List Update) {rows : Table Tracking}, (∀ u ∈ us, u ∈ s.pressed) → Moved s rows →
      Moved s (applyUpdates j us rows).2 ∧ Kept rows (applyUpdates j us rows).2 ∧
        ((applyUpdates j us rows).1 = true →
          ∀ u ∈ us, Handled (applyUpdates j us rows).2 u) := by
  intro us
  induction us with
  | nil => exact fun _ h => ⟨h, Kept.refl _, fun _ u hu => nomatch hu⟩
  | cons u us ih =>
    intro rows hus h
    obtain ⟨hfirst, hkept, hhandled⟩ :=
      applyUpdate_pressed (j := j) hs (hus u (List.mem_cons_self ..)) h
    rcases e : applyUpdate j u rows with ⟨b, rows'⟩
    rw [e] at hfirst hkept hhandled
    cases b with
    | false =>
      simp only [applyUpdates, e]
      exact ⟨hfirst, hkept, nofun⟩
    | true =>
      obtain ⟨hrest, hkept', hhandled'⟩ := ih (fun v hv => hus v (List.mem_cons_of_mem _ hv)) hfirst
      simp only [applyUpdates, e]
      refine ⟨hrest, hkept.trans hkept', fun hend v hv => ?_⟩
      rcases List.mem_cons.mp hv with rfl | hv
      · exact (hhandled rfl).mono hkept'
      · exact hhandled' hend v hv

theorem Moved.one (hs : Inv s) (h : Moved s rows) {k : Nat} (hr : rows.get? i = some r)
    (hr' : rows.get? k = some r') (ho : r.order = r'.order) : i = k := by
  obtain ⟨q, hq⟩ := h.old i r hr
  obtain ⟨q', hq'⟩ := h.old k r' hr'
  obtain ⟨p, hp, hl⟩ := h.kept i q hq
  obtain ⟨p', hp', hl'⟩ := h.kept k q' hq'
  rw [hr] at hp
  rw [hr'] at hp'
  cases hp
  cases hp'
  exact hs.one i k q q' hq hq' (hl.order.symm.trans (ho.trans hl'.order))

theorem Moved.follows {inbox : List Update} (hs : Inv s) (h : Moved s rows)
    (hsub : inbox.Sublist s.inbox) (hgone : ∀ u ∈ s.inbox, u ∈ inbox ∨ Handled rows u) :
    Follows s { s with rows := rows, inbox := inbox } where
  kept := h.kept
  once _ _ _ := ⟨rfl, rfl⟩
  silent _ _ _ _ := rfl
  inv :=
    { ok := h.ok
      credited := fun i r hr =>
        (h.credited i r hr).mono (List.Subset.refl _) (List.Subset.refl _)
      one := fun _ _ _ _ => h.one hs
      buys := ⟨hs.buys.1, fun o ho => tracks_mono h.kept (hs.buys.2 o ho)⟩
      notices := ⟨hs.notices.1, fun o ho => tracks_mono h.kept (hs.notices.2 o ho)⟩
      sorted := hs.sorted.sublist hsub
      fresh := fun u hu => hs.fresh u (hsub.subset hu)
      held := fun u hu => hs.held u (hsub.subset hu)
      named := fun u hu i hi => by
        obtain ⟨q, hq⟩ := hs.named u hu i hi
        obtain ⟨r, hr, -⟩ := h.kept i q hq
        exact ⟨r, hr⟩
      handled := fun u hu => by
        rcases hs.handled u hu with hin | hdone
        · exact hgone u hin
        · exact Or.inr (hdone.mono h.kept) }

/-- The updates that a confirmation leaves are the ones behind the first hundred. -/
theorem taken_or_later {inbox : List Update} {last : Update}
    (hsorted : inbox.Pairwise (·.id < ·.id)) (hlast : (inbox.take 100).getLast? = some last)
    (hu : u ∈ inbox) : u ∈ inbox.take 100 ∨ last.id < u.id := by
  rw [← List.take_append_drop 100 inbox] at hu hsorted
  rcases List.mem_append.mp hu with htake | hdrop
  · exact Or.inl htake
  · exact Or.inr ((List.pairwise_append.mp hsorted).2.2 last (List.mem_of_getLast? hlast) u hdrop)

theorem processCallbackUpdates_follows (j : Job) (hs : Inv s) :
    Follows s (processCallbackUpdates j s).2 := by
  unfold processCallbackUpdates
  split
  · exact Follows.refl hs
  · cases hlast : (s.inbox.take 100).getLast? with
    | none => exact Follows.refl hs
    | some last =>
      obtain ⟨hpressed, -, hhandled⟩ := applyUpdates_pressed (j := j) hs (s.inbox.take 100)
        (fun u hu => hs.held u (List.mem_of_mem_take hu)) hs.moved
      rcases e : applyUpdates j (s.inbox.take 100) s.rows with ⟨b, rows⟩
      rw [e] at hpressed hhandled
      cases b with
      | false => exact hpressed.follows hs (List.Sublist.refl _) fun u hu => Or.inl hu
      | true =>
        show Follows s { s with
          rows := rows
          inbox := if j.confirmed then s.inbox.filter (last.id < ·.id) else s.inbox }
        by_cases hc : j.confirmed = true
        · rw [if_pos hc]
          refine hpressed.follows hs List.filter_sublist fun u hu => ?_
          rcases taken_or_later hs.sorted hlast hu with htake | hlater
          · exact Or.inr (hhandled rfl u htake)
          · exact Or.inl (List.mem_filter.mpr ⟨hu, decide_eq_true hlater⟩)
        · rw [if_neg hc]
          exact hpressed.follows hs (List.Sublist.refl _) fun u hu => Or.inl hu

/-! ### The new orders -/

/-- What tracking an order comes to: one new row, and at most one purchase and one
announcement of the order. -/
structure Adds (o : Order) (s s' : State) : Prop where
  row : ∃ r, RowOk r ∧ Credited s' s.rows.nextKey r ∧ r.order = o.id ∧ r.gbDoneAt = none ∧
    ∀ k, s'.rows.get? k = if k = s.rows.nextKey then some r else s.rows.get? k
  buys : s'.buys = s.buys ∨ s'.buys = s.buys ++ [o.id]
  notices : s'.notices = s.notices ∨ s'.notices = s.notices ++ [o.id]
  inbox : s'.inbox = s.inbox
  nextUpdate : s'.nextUpdate = s.nextUpdate
  pressed : s'.pressed = s.pressed
  reminders : s'.reminders = s.reminders

theorem get?_updateRow (s : State) (i k : Nat) (f : Tracking → Tracking) :
    (updateRow i f s).rows.get? k = (s.rows.get? k).map fun r => if k = i then f r else r := by
  show (s.rows.updateWhere (fun k _ => k == i) f).get? k = _
  simp only [Table.get?_updateWhere, beq_iff_eq]

theorem adds_create (s : State) :
    Adds o s { s with rows := s.rows.create { order := o.id } } where
  row := ⟨{ order := o.id }, rowOk_new o.id, ⟨fun h => absurd rfl h, fun h => absurd rfl h⟩, rfl,
    rfl, fun _ => Table.get?_create⟩
  buys := Or.inl rfl
  notices := Or.inl rfl
  inbox := rfl
  nextUpdate := rfl
  pressed := rfl
  reminders := rfl

/-- A save of the new row. -/
theorem Adds.update {f : Tracking → Tracking} (h : Adds o s s')
    (hf : ∀ r, RowOk r → Credited s' s.rows.nextKey r → r.order = o.id → r.gbDoneAt = none →
      RowOk (f r) ∧ Credited s' s.rows.nextKey (f r) ∧ (f r).order = o.id ∧
        (f r).gbDoneAt = none) :
    Adds o s (updateRow s.rows.nextKey f s') := by
  obtain ⟨r, hok, hc, ho, hgb, hget⟩ := h.row
  obtain ⟨hok', hc', ho', hgb'⟩ := hf r hok hc ho hgb
  refine ⟨⟨f r, hok', hc'.mono (List.Subset.refl _) (List.Subset.refl _), ho', hgb', fun k => ?_⟩,
    h.buys, h.notices, h.inbox, h.nextUpdate, h.pressed, h.reminders⟩
  rw [get?_updateRow, hget]
  by_cases hk : k = s.rows.nextKey
  · simp [hk]
  · simp [hk]

theorem Adds.buy (h : Adds o s s') (hbuys : s'.buys = s.buys) :
    Adds o s { s' with buys := s'.buys ++ [o.id] } := by
  obtain ⟨r, hok, hc, ho, hgb, hget⟩ := h.row
  refine ⟨⟨r, hok, hc.mono (List.Subset.refl _) (List.subset_append_left _ _), ho, hgb, hget⟩,
    Or.inr ?_, h.notices, h.inbox, h.nextUpdate, h.pressed, h.reminders⟩
  rw [hbuys]

theorem Adds.notice (h : Adds o s s') (hnotices : s'.notices = s.notices) :
    Adds o s { s' with notices := s'.notices ++ [o.id] } := by
  obtain ⟨r, hok, hc, ho, hgb, hget⟩ := h.row
  refine ⟨⟨r, hok, hc.mono (List.Subset.refl _) (List.Subset.refl _), ho, hgb, hget⟩,
    h.buys, Or.inr ?_, h.inbox, h.nextUpdate, h.pressed, h.reminders⟩
  rw [hnotices]

theorem autoBuy_adds (h : Adds o s s') (hbuys : s'.buys = s.buys) :
    Adds o s (autoBuy j o s.rows.nextKey s').2 ∧
      (autoBuy j o s.rows.nextKey s').2.notices = s'.notices := by
  unfold autoBuy
  split
  · exact ⟨h, rfl⟩
  · have hbought := h.buy hbuys
    cases hanswer : j.buy o.id with
    | raised => exact ⟨hbought, rfl⟩
    | failed => exact ⟨hbought, rfl⟩
    | ok orderId =>
      by_cases hf : j.fails (.bought o.id) = true
      · simp only [hf]
        exact ⟨hbought, rfl⟩
      · simp only [hf]
        refine ⟨hbought.update fun r hok hc ho hgb => ?_, rfl⟩
        refine ⟨⟨nofun, iff_of_false nofun nofun, iff_of_false nofun fun hne => hne hgb⟩,
          ⟨fun _ => Or.inr (Or.inr ⟨?_, orderId, rfl⟩), hc.gb⟩, ho, hgb⟩
        show r.order ∈ s'.buys ++ [o.id]
        rw [ho]
        exact List.mem_append_right _ (List.mem_singleton_self _)

theorem announce_adds (h : Adds o s s') (hnotices : s'.notices = s.notices) :
    Adds o s (announce j o s.rows.nextKey s').2 := by
  unfold announce
  split
  · exact h
  · have hsent := h.notice hnotices
    cases hm : j.message o.id with
    | none => exact hsent
    | some messageId =>
      dsimp only
      split
      · exact hsent
      · split
        · exact hsent
        · exact hsent.update fun r hok hc ho hgb =>
            ⟨⟨hok.live, hok.eldorado, hok.gb⟩, ⟨hc.eldorado, hc.gb⟩, ho, hgb⟩

/-- One turn of the loop of `_detect_new_orders`. -/
theorem track_adds (j : Job) (o : Order) (s : State) :
    (track j o s).2 = s ∨ s.tracks o.id = false ∧ Adds o s (track j o s).2 := by
  unfold track
  split
  · exact Or.inl rfl
  · next hnew =>
    rw [Bool.not_eq_true, Bool.or_eq_false_iff] at hnew
    obtain ⟨hbuy, hnotices⟩ := autoBuy_adds (j := j) (adds_create (o := o) s) rfl
    refine Or.inr ⟨hnew.1, ?_⟩
    rcases e : autoBuy j o s.rows.nextKey { s with rows := s.rows.create { order := o.id } }
      with ⟨b, s'⟩
    rw [e] at hbuy hnotices
    cases b with
    | false => exact hbuy
    | true => exact announce_adds hbuy hnotices

theorem Adds.kept (h : Adds o s s') : Kept s.rows s'.rows := by
  obtain ⟨r, -, -, -, -, hget⟩ := h.row
  intro i q hq
  have hlt : i < s.rows.nextKey := Table.lt_nextKey hq
  exact ⟨q, by rw [hget, if_neg (by omega), hq], Later.refl q⟩

/-- A row is the new one or an old one. -/
theorem Adds.cases (h : Adds o s s') {q : Tracking}
    (hq : s'.rows.get? i = some q) :
    i = s.rows.nextKey ∧ RowOk q ∧ Credited s' i q ∧ q.order = o.id ∨ s.rows.get? i = some q := by
  obtain ⟨r, hok, hc, ho, -, hget⟩ := h.row
  rw [hget] at hq
  split at hq
  · next hi =>
    cases hq
    exact Or.inl ⟨hi, hok, hi ▸ hc, ho⟩
  · exact Or.inr hq

theorem order_ne_of_not_tracks {o : Nat} (h : s.tracks o = false)
    (hr : s.rows.get? i = some r) : r.order ≠ o := by
  intro ho
  rw [tracks_iff.mpr ⟨i, r, hr, ho⟩] at h
  cases h

theorem count_append_of_ne {xs : List Nat} {x y : Nat} (h : x ≠ y) :
    (xs ++ [y]).count x = xs.count x := by
  rw [List.count_append, List.count_singleton, if_neg (by simpa using h.symm), Nat.add_zero]

/-- A list that a new order may join keeps its orders apart, and they are tracked. -/
theorem Adds.listed {xs ys : List Nat} (h : Adds o s s')
    (hnew : s.tracks o.id = false) (hxs : xs.Nodup ∧ ∀ x ∈ xs, s.tracks x)
    (hys : ys = xs ∨ ys = xs ++ [o.id]) : ys.Nodup ∧ ∀ y ∈ ys, s'.tracks y := by
  have hold : ∀ x ∈ xs, s'.tracks x := fun x hx => tracks_mono h.kept (hxs.2 x hx)
  rcases hys with rfl | rfl
  · exact ⟨hxs.1, hold⟩
  · obtain ⟨r, -, -, ho, -, hget⟩ := h.row
    have hout : o.id ∉ xs := fun hin => by
      rw [hxs.2 _ hin] at hnew
      cases hnew
    refine ⟨List.nodup_append.mpr ⟨hxs.1, List.nodup_singleton _, fun x hx y hy heq => ?_⟩,
      fun y hy => ?_⟩
    · rw [List.mem_singleton.mp hy] at heq
      exact hout (heq ▸ hx)
    · rcases List.mem_append.mp hy with hy | hy
      · exact hold y hy
      · rw [List.mem_singleton.mp hy]
        exact tracks_iff.mpr ⟨s.rows.nextKey, r, by rw [hget, if_pos rfl], ho⟩

theorem Adds.follows (hs : Inv s) (h : Adds o s s') (hnew : s.tracks o.id = false) :
    Follows s s' where
  kept := h.kept
  once i r hr := by
    have hne : r.order ≠ o.id := order_ne_of_not_tracks hnew hr
    constructor
    · rcases h.buys with heq | heq
      · rw [heq]
      · rw [heq, count_append_of_ne hne]
    · rcases h.notices with heq | heq
      · rw [heq]
      · rw [heq, count_append_of_ne hne]
  silent _ _ _ _ := by rw [h.reminders]
  inv :=
    { ok := fun i q hq => by
        rcases h.cases hq with ⟨-, hok, -⟩ | hold
        · exact hok
        · exact hs.ok i q hold
      credited := fun i q hq => by
        rcases h.cases hq with ⟨-, -, hc, -⟩ | hold
        · exact hc
        · refine (hs.credited i q hold).mono (by rw [h.pressed]; exact List.Subset.refl _) ?_
          rcases h.buys with heq | heq
          · rw [heq]
            exact List.Subset.refl _
          · rw [heq]
            exact List.subset_append_left _ _
      one := fun i k q q' hq hq' heq => by
        rcases h.cases hq with ⟨hi, -, -, ho⟩ | hold
        · rcases h.cases hq' with ⟨hk, -⟩ | hold'
          · rw [hi, hk]
          · exact absurd (heq.symm.trans ho) (order_ne_of_not_tracks hnew hold')
        · rcases h.cases hq' with ⟨-, -, -, ho⟩ | hold'
          · exact absurd (heq.trans ho) (order_ne_of_not_tracks hnew hold)
          · exact hs.one i k q q' hold hold' heq
      buys := h.listed hnew hs.buys h.buys
      notices := h.listed hnew hs.notices h.notices
      sorted := by rw [h.inbox]; exact hs.sorted
      fresh := by rw [h.inbox, h.nextUpdate]; exact hs.fresh
      held := by rw [h.inbox, h.pressed]; exact hs.held
      named := fun u hu i hi => by
        rw [h.pressed] at hu
        obtain ⟨q, hq⟩ := hs.named u hu i hi
        obtain ⟨r, hr, -⟩ := h.kept i q hq
        exact ⟨r, hr⟩
      handled := fun u hu => by
        rw [h.pressed] at hu
        rw [h.inbox]
        exact (hs.handled u hu).imp_right fun hdone => hdone.mono h.kept }

theorem track_follows (j : Job) (o : Order) (hs : Inv s) : Follows s (track j o s).2 := by
  rcases track_adds j o s with heq | ⟨hnew, hadds⟩
  · rw [heq]
    exact Follows.refl hs
  · exact hadds.follows hs hnew

theorem trackAll_follows (j : Job) : ∀ (os : List Order) {s : State}, Inv s →
    Follows s (trackAll j os s).2 := by
  intro os
  induction os with
  | nil => exact fun hs => Follows.refl hs
  | cons o os ih =>
    intro s hs
    have hfirst := track_follows j o hs
    rcases e : track j o s with ⟨b, s'⟩
    rw [e] at hfirst
    cases b with
    | false =>
      simp only [trackAll, e]
      exact hfirst
    | true =>
      simp only [trackAll, e]
      exact hfirst.trans (ih hfirst.inv)

/-! ### The reminders -/

theorem remind_moved (hs : Inv s) (i now : Nat) :
    Moved s (updateRow i (fun r => { r with lastRemindedAt := some now }) s).rows := by
  have key : ∀ k r', (updateRow i (fun r => { r with lastRemindedAt := some now }) s).rows.get? k
      = some r' → ∃ r, s.rows.get? k = some r ∧
        (r' = r ∨ r' = { r with lastRemindedAt := some now }) := by
    intro k r' hr'
    rw [get?_updateRow, Option.map_eq_some_iff] at hr'
    obtain ⟨r, hr, rfl⟩ := hr'
    refine ⟨r, hr, ?_⟩
    split
    · exact Or.inr rfl
    · exact Or.inl rfl
  refine ⟨fun k r' hr' => ?_, fun k r' hr' => ?_, fun k r hr => ?_, fun k r' hr' => ?_⟩
  · obtain ⟨r, hr, rfl | rfl⟩ := key k r' hr'
    · exact hs.ok k _ hr
    · exact ⟨(hs.ok k r hr).live, (hs.ok k r hr).eldorado, (hs.ok k r hr).gb⟩
  · obtain ⟨r, hr, rfl | rfl⟩ := key k r' hr'
    · exact hs.credited k _ hr
    · exact ⟨(hs.credited k r hr).eldorado, (hs.credited k r hr).gb⟩
  · rw [get?_updateRow, hr]
    refine ⟨_, rfl, ?_⟩
    split
    · exact ⟨rfl, ⟨rfl, rfl⟩, Nat.le_refl _, fun _ => ⟨rfl, rfl⟩, fun _ => ⟨rfl, rfl⟩⟩
    · exact Later.refl r
  · obtain ⟨r, hr, -⟩ := key k r' hr'
    exact ⟨r, hr⟩

/-- Only announced rows are due, and they stay announced. -/
theorem remindEach_follows (j : Job) : ∀ (due : List (Nat × Tracking)) {s : State}, Inv s →
    (∀ x ∈ due, ∃ r, s.rows.get? x.1 = some r ∧ r.notifiedAt ≠ none) →
    Follows s (remindEach j due s) := by
  intro due
  induction due with
  | nil => exact fun hs _ => Follows.refl hs
  | cons x due ih =>
    intro s hs hdue
    obtain ⟨i, q⟩ := x
    obtain ⟨r, hr, hannounced⟩ := hdue (i, q) (List.mem_cons_self ..)
    have hsilent : ∀ k r', s.rows.get? k = some r' → r'.notifiedAt = none →
        (s.reminders ++ [i]).count k = s.reminders.count k := by
      intro k r' hr' hnone
      refine count_append_of_ne fun heq => ?_
      rw [heq, hr] at hr'
      cases hr'
      exact hannounced hnone
    have hsent : Follows s { s with reminders := s.reminders ++ [i] } :=
      ⟨⟨hs.ok, fun k r' hr' => (hs.credited k r' hr').mono (List.Subset.refl _)
        (List.Subset.refl _), hs.one, hs.buys, hs.notices, hs.sorted, hs.fresh, hs.held,
        hs.named, hs.handled⟩, Kept.refl _, fun _ _ _ => ⟨rfl, rfl⟩, hsilent⟩
    show Follows s (if j.fails (.reminded i) then _ else remindEach j due (updateRow i _ _))
    split
    · exact hsent
    · have hsaved := (remind_moved hsent.inv i j.now).follows hsent.inv (List.Sublist.refl _)
        fun u hu => Or.inl hu
      refine (hsent.trans hsaved).trans (ih hsaved.inv fun x hx => ?_)
      obtain ⟨r', hr', hnotified⟩ := hdue x (List.mem_cons_of_mem _ hx)
      obtain ⟨r'', hr'', hl⟩ := (hsent.trans hsaved).kept x.1 r' hr'
      exact ⟨r'', hr'', by rw [hl.message.2]; exact hnotified⟩

theorem sendReminders_follows (j : Job) (hs : Inv s) :
    Follows s (sendReminders j s) := by
  refine remindEach_follows j _ hs fun x hx => ?_
  obtain ⟨hr, hdue⟩ := Table.mem_select.mp hx
  refine ⟨x.2, hr, fun hnone => ?_⟩
  simp [isDue, hnone] at hdue

/-! ### Runs -/

theorem runJob_follows (j : Job) (hs : Inv s) : Follows s (runJob j s) := by
  have hpresses := processCallbackUpdates_follows j hs
  unfold runJob
  rcases e : processCallbackUpdates j s with ⟨b, s'⟩
  rw [e] at hpresses
  cases b with
  | false => exact hpresses
  | true =>
    have horders := hpresses.trans (trackAll_follows j (j.orders.filter fun o => !s'.tracks o.id)
      hpresses.inv)
    dsimp only
    rcases e' : detectNewOrders j s' with ⟨b', s''⟩
    rw [← detectNewOrders, e'] at horders
    cases b' with
    | false => exact horders
    | true => exact horders.trans (sendReminders_follows j horders.inv)

/-- A button is pressed: the update joins the others behind them. -/
theorem press_follows {p : Press} (username : String) (hs : Inv s)
    (hrow : ∀ i, p.row = some i → ∃ r, s.rows.get? i = some r) :
    Follows s
      { s with
        inbox := s.inbox ++ [⟨s.nextUpdate, p, username⟩]
        nextUpdate := s.nextUpdate + 1
        pressed := s.pressed ++ [⟨s.nextUpdate, p, username⟩] } where
  kept := Kept.refl _
  once _ _ _ := ⟨rfl, rfl⟩
  silent _ _ _ _ := rfl
  inv :=
    { ok := hs.ok
      credited := fun i r hr =>
        (hs.credited i r hr).mono (List.subset_append_left _ _) (List.Subset.refl _)
      one := hs.one
      buys := hs.buys
      notices := hs.notices
      sorted := by
        refine List.pairwise_append.mpr ⟨hs.sorted, List.pairwise_singleton _ _, ?_⟩
        intro u hu v hv
        rw [List.mem_singleton.mp hv]
        exact hs.fresh u hu
      fresh := fun u hu => by
        rcases List.mem_append.mp hu with hu | hu
        · exact (hs.fresh u hu).trans (Nat.lt_succ_self _)
        · rw [List.mem_singleton.mp hu]
          exact Nat.lt_succ_self _
      held := fun u hu => by
        rcases List.mem_append.mp hu with hu | hu
        · exact List.mem_append_left _ (hs.held u hu)
        · exact List.mem_append_right _ hu
      named := fun u hu => by
        rcases List.mem_append.mp hu with hu | hu
        · exact hs.named u hu
        · rw [List.mem_singleton.mp hu]
          exact hrow
      handled := fun u hu => by
        rcases List.mem_append.mp hu with hu | hu
        · exact (hs.handled u hu).imp_left fun hin => List.mem_append_left _ hin
        · exact Or.inl (List.mem_append_right _ hu) }

theorem step_follows (e : Event) (hs : Inv s) : Follows s (step s e) := by
  cases e with
  | job j => exact runJob_follows j hs
  | press p username =>
    show Follows s (if p.row.all (fun i => (s.rows.get? i).isSome) then _ else s)
    split
    · next hrow =>
      refine press_follows username hs fun i hi => ?_
      rw [hi] at hrow
      exact Option.isSome_iff_exists.mp hrow
    · exact Follows.refl hs

theorem run_follows (es : List Event) {s : State} (hs : Inv s) : Follows s (run step s es) := by
  induction es generalizing s with
  | nil => exact Follows.refl hs
  | cons e es ih =>
    have hfirst := step_follows e hs
    exact hfirst.trans (ih hfirst.inv)

theorem inv_start : Inv State.start where
  ok _ _ h := nomatch h
  credited _ _ h := nomatch h
  one _ _ _ _ h := nomatch h
  buys := ⟨List.nodup_nil, fun _ h => nomatch h⟩
  notices := ⟨List.nodup_nil, fun _ h => nomatch h⟩
  sorted := List.Pairwise.nil
  fresh _ h := nomatch h
  held _ h := nomatch h
  named _ h := nomatch h
  handled _ h := nomatch h

/-- The runs from the start keep the invariant. -/
theorem inv_run (es : List Event) : Inv (run step .start es) := (run_follows es inv_start).inv

/-- **Nothing is done twice.**  In every run an order has at most one row, is bought at most
once and is announced at most once. -/
theorem bought_once (es : List Event) :
    let s := run step .start es
    (∀ o, s.buys.count o ≤ 1) ∧ (∀ o, s.notices.count o ≤ 1) ∧
      ∀ i k r r', s.rows.get? i = some r → s.rows.get? k = some r' → r.order = r'.order → i = k :=
  have hs := inv_run es
  ⟨fun o => List.nodup_iff_count_le_one.mp hs.buys.1 o,
    fun o => List.nodup_iff_count_le_one.mp hs.notices.1 o, hs.one⟩

/-- **What was done stays done.**  However a run goes on, it keeps every row: the state only
goes forward, and a step that is noted keeps its time and the one who did it, who pressed that
button or is the purchase. -/
theorem history_kept (es fs : List Event) (i : Nat) (r : Tracking)
    (hr : (run step .start es).rows.get? i = some r) :
    RowOk r ∧ Credited (run step .start es) i r ∧
      ∃ r', (run step .start (es ++ fs)).rows.get? i = some r' ∧ Later r r' := by
  have hs := inv_run es
  rw [run_append]
  exact ⟨hs.ok i r hr, hs.credited i r hr, (run_follows fs hs).kept i r hr⟩

/-- Order 7 is bought by the job; the first step stays the job's when both buttons are pressed. -/
def jobWith (message : Option Int) : Job where
  now := 5
  polled := true
  confirmed := true
  orders := [⟨7, ⟨"eldorado:abc", ""⟩⟩]
  buy := fun _ => .ok "e1"
  message := fun _ => message
  fails := fun _ => false

theorem history_kept_bought :
    ∃ r', (run step .start ([.job (jobWith (some 3))] ++
        [.press (.gbDone 0) "ann", .job (jobWith none)])).rows.get? 0 = some r' ∧
      Later ⟨7, .eldoradoDone, some 3, some 5, none, "AutoBot (orderId=e1)", some 5, "", none⟩ r' :=
  (history_kept [.job (jobWith (some 3))] [.press (.gbDone 0) "ann", .job (jobWith none)] 0 _
    rfl).2.2

/-- **No press is lost.**  In every run a press that Telegram does not hold any more has
brought its row as far as it is to; one that it holds is still to come, in the order of the
presses. -/
theorem press_not_lost (es : List Event) :
    let s := run step .start es
    (∀ u ∈ s.pressed, u ∈ s.inbox ∨ Handled s.rows u) ∧ s.inbox.Pairwise (·.id < ·.id) :=
  ⟨(inv_run es).handled, (inv_run es).sorted⟩

/-- **What is not announced is forgotten.**  However a run goes on behind a state in which a
row is not announced, nobody hears of it: its order is not announced or bought again, and
nobody is reminded of it. -/
theorem unannounced_forgotten (es fs : List Event) (i : Nat) (r : Tracking)
    (hr : (run step .start es).rows.get? i = some r) (hnone : r.notifiedAt = none) :
    let s := run step .start es
    let s' := run step .start (es ++ fs)
    (∃ r', s'.rows.get? i = some r' ∧ r'.notifiedAt = none) ∧
      s'.notices.count r.order = s.notices.count r.order ∧
      s'.buys.count r.order = s.buys.count r.order ∧
      s'.reminders.count i = s.reminders.count i := by
  have hfollows := run_follows fs (inv_run es)
  rw [← run_append] at hfollows
  obtain ⟨r', hr', hl⟩ := hfollows.kept i r hr
  obtain ⟨hbuys, hnotices⟩ := hfollows.once i r hr
  exact ⟨⟨r', hr', hl.message.2.trans hnone⟩, hnotices, hbuys, hfollows.silent i r hr hnone⟩

theorem unannounced_forgotten_once :
    (run step .start ([.job (jobWith none)] ++ [.job (jobWith (some 3))])).notices.count 7 = 1 :=
  (unannounced_forgotten [.job (jobWith none)] [.job (jobWith (some 3))] 0
    ⟨7, .eldoradoDone, none, none, none, "AutoBot (orderId=e1)", some 5, "", none⟩ rfl rfl).2.1

end Sda.DeliveryTracker
