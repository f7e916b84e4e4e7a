/-
Sda/Sync/EmailRecovery.lean

PlayerAuctions orders recovered from notification e-mails
(services/playerauctions/email_recovery.py).

A run searches the inbox, reads the newest messages again and then a page of the older ones, from a
cursor on that it saves after each message.  The cursor does not ask what became of the message: a
message that could not be fetched, or whose order could not be recovered, is passed like any other
and not read again.

* `noneLost` — where every older message that a run reads is settled by then, and no message ends a
  run, each unsettled message is read again, within as many runs as its uid is beyond the cursor;
* `lost` — an older message whose recovery fails once is never read again.
-/
import Sda.Lib.Run
import Sda.Lib.Text
import Sda.Pool.Models

namespace Sda.Sync

/-! ### Which messages a run reads -/

/-- The uids of the fresh window, and the next page of the older ones. -/
structure RecoveryUids where
  recent : List Nat
  backlog : List Nat
  deriving DecidableEq, Repr

/-- **`select_recovery_uids`**. -/
def selectRecoveryUids (uids : List Nat) (limit : Int) (backfillCursor : Nat) : RecoveryUids :=
  let boundedLimit := (max 1 limit).toNat
  let older := uids.take (uids.length - boundedLimit)
  { recent := uids.drop (uids.length - boundedLimit)
    backlog := (older.filter fun uid => decide (backfillCursor < uid)).take boundedLimit }

/-! ### What becomes of a message -/

/-- What `recover_order_by_id` returns. -/
inductive RecoverResult
  | recovered | skippedIncompleteStatus | parseFailed
  deriving DecidableEq, Repr

/-- What `_recover_candidate` returns. -/
inductive RecoveryOutcome
  | failed | bridgeOwned | existing | recovered | incomplete
  deriving DecidableEq, Repr

/-- The order a notification names, where it is stored. -/
structure ExistingOrder where
  status : OrderStatus
  /-- `owned_product_id` is set. -/
  linked : Bool
  deriving DecidableEq, Repr

/-- A candidate, with what the database and the relay say of it. -/
structure EmailOrderCandidate where
  accountSlug : String
  /-- An account of that slug and its credential are active. -/
  accountActive : Bool := true
  order : Option ExistingOrder := none
  /-- `none` where `recover_order_by_id` raises. -/
  recover : Option RecoverResult
  deriving DecidableEq, Repr

def martGmailBridgeAccountSlugs : List String :=
  ["playerauctions-csgosmurfkings", "ezsmurfmart"]

/-- **`is_mart_gmail_bridge_candidate`**. -/
def isMartGmailBridgeCandidate (accountSlug : String) : Bool :=
  decide (lowerText (stripText accountSlug) ∈ martGmailBridgeAccountSlugs)

/-- A confirmed order that is not linked is recovered once more. -/
def ExistingOrder.replayed (o : ExistingOrder) : Bool :=
  decide (o.status ∈ [.delivered, .completed, .disputed]) && !o.linked

/-- **`_recover_candidate`**. -/
def recoverCandidate (c : EmailOrderCandidate) : RecoveryOutcome :=
  if !c.accountActive then .failed
  else if isMartGmailBridgeCandidate c.accountSlug then .bridgeOwned
  else if c.order.any fun o => !o.replayed then .existing
  else match c.recover with
    | some .recovered => .recovered
    | some .skippedIncompleteStatus => .incomplete
    | some .parseFailed | none => .failed

/-- What `_candidate_from_uid` finds. -/
inductive FetchedMail
  /-- The fetch, the parser or a lookup in the database raises. -/
  | raises
  /-- The status of the fetch is not OK, or there is no data. -/
  | notFetched
  | unrelated
  | candidate (c : EmailOrderCandidate)
  deriving DecidableEq, Repr

/-- Nothing is left to do about the message. -/
def FetchedMail.settles : FetchedMail → Bool
  | .raises | .notFetched => false
  | .unrelated => true
  | .candidate c =>
    match recoverCandidate c with
    | .recovered | .existing | .bridgeOwned => true
    | .failed | .incomplete => false

/-! ### A run -/

structure RecoverySummary where
  examined : Nat := 0
  candidates : Nat := 0
  existing : Nat := 0
  recovered : Nat := 0
  incomplete : Nat := 0
  failed : Nat := 0
  backlogExamined : Nat := 0
  bridgeOwned : Nat := 0
  deriving DecidableEq, Repr

def RecoverySummary.countOutcome (s : RecoverySummary) : RecoveryOutcome → RecoverySummary
  | .failed => { s with failed := s.failed + 1 }
  | .bridgeOwned => { s with bridgeOwned := s.bridgeOwned + 1 }
  | .existing => { s with existing := s.existing + 1 }
  | .recovered => { s with recovered := s.recovered + 1 }
  | .incomplete => { s with incomplete := s.incomplete + 1 }

/-- A message is counted; `_candidate_from_uid` returns `None` for a fetch that failed as for mail
that is unrelated. -/
def RecoverySummary.count (s : RecoverySummary) (backlog : Bool) (f : FetchedMail) : RecoverySummary :=
  let s' := { s with
    examined := s.examined + 1
    backlogExamined := s.backlogExamined + if backlog then 1 else 0 }
  match f with
  | .candidate c =>
    { s' with candidates := s'.candidates + 1 }.countOutcome (recoverCandidate c)
  | .raises | .notFetched | .unrelated => s'

/-- Where the loops of a run stand. -/
structure Reading where
  cursor : Nat
  settled : Nat → Bool
  examined : List Nat := []
  summary : RecoverySummary := {}

/-- One message; in the backlog the cursor is saved. -/
def Reading.examine (r : Reading) (backlog : Bool) (uid : Nat) (f : FetchedMail) : Reading :=
  { cursor := if backlog then uid else r.cursor
    settled := fun v => r.settled v || (v == uid && f.settles)
    examined := uid :: r.examined
    summary := r.summary.count backlog f }

/-- A loop over messages, and whether it came to its end. -/
def Reading.loop (backlog : Bool) (fetch : Nat → FetchedMail) : List Nat → Reading → Reading × Bool
  | [], r => (r, true)
  | uid :: rest, r =>
    if fetch uid = .raises then (r, false)
    else (r.examine backlog uid (fetch uid)).loop backlog fetch rest

/-- What a run meets. -/
structure RecoveryRun where
  limit : Int := 100
  /-- The messages that the search finds; `none` where the mailbox is not configured, or the
  search fails. -/
  search : Option (Nat → Bool) := some fun _ => true
  fetch : Nat → FetchedMail

/-- The mailbox and the cursor.  `settled` and `outside` record which messages were settled and
which have been missed by a search since they arrived. -/
structure Recovery where
  mailbox : List Nat := []
  uidNext : Nat := 1
  cursor : Nat := 0
  settled : Nat → Bool := fun _ => false
  outside : Nat → Bool := fun _ => false

/-- The messages that a run takes up. -/
def Recovery.selected (s : Recovery) (e : RecoveryRun) : RecoveryUids :=
  match e.search with
  | none => ⟨[], []⟩
  | some window => selectRecoveryUids (s.mailbox.filter window) e.limit s.cursor

/-- **`run`**: the fresh window, then the page of the backlog. -/
def Recovery.read (s : Recovery) (e : RecoveryRun) : Reading :=
  let fresh := Reading.loop false e.fetch (s.selected e).recent
    { cursor := s.cursor, settled := s.settled }
  if fresh.2 then (fresh.1.loop true e.fetch (s.selected e).backlog).1 else fresh.1

/-! ### Histories -/

inductive RecoveryEvent
  /-- A notification arrives, with so many other messages before it. -/
  | arrives (others : Nat)
  | runs (e : RecoveryRun)

/-- The messages that an event reads. -/
def Recovery.examines (s : Recovery) : RecoveryEvent → List Nat
  | .arrives _ => []
  | .runs e => (s.read e).examined

def recoveryStep (s : Recovery) : RecoveryEvent → Recovery
  | .arrives others =>
    { s with
      mailbox := s.mailbox ++ [s.uidNext + others]
      uidNext := s.uidNext + others + 1 }
  | .runs e =>
    { s with
      cursor := (s.read e).cursor
      settled := (s.read e).settled
      outside := fun uid => s.outside uid || e.search.any fun window => !window uid }

/-- The event is a run whose search succeeds. -/
def RecoveryEvent.searches : RecoveryEvent → Bool
  | .arrives _ => false
  | .runs e => e.search.isSome

/-- The message is in the search window. -/
def RecoveryEvent.Shows (uid : Nat) : RecoveryEvent → Prop
  | .arrives _ => True
  | .runs e => ∀ window ∈ e.search, window uid = true

/-- A run of the history reads the message. -/
def ReadAgain (uid : Nat) : Recovery → List RecoveryEvent → Prop
  | _, [] => False
  | s, e :: es => uid ∈ s.examines e ∨ ReadAgain uid (recoveryStep s e) es

/-- In this state no message is lost to histories of such steps. -/
structure NoneLost (C : Recovery → RecoveryEvent → Prop) (s : Recovery) : Prop where
  /-- The cursor has passed settled messages only. -/
  passed : ∀ uid ∈ s.mailbox, s.outside uid = false → uid ≤ s.cursor → s.settled uid = true
  /-- Every other message is read again while it stays in the search window. -/
  readAgain : ∀ uid ∈ s.mailbox, s.outside uid = false → s.settled uid = false →
    ∃ bound, ∀ es, Along recoveryStep C s es → (∀ e ∈ es, e.Shows uid) →
      bound ≤ es.countP RecoveryEvent.searches → ReadAgain uid s es

/-- No message ends the run, and the messages of the backlog are settled. -/
def BacklogSettles (s : Recovery) : RecoveryEvent → Prop
  | .arrives _ => True
  | .runs e =>
    (∀ uid ∈ (s.selected e).recent ++ (s.selected e).backlog, e.fetch uid ≠ .raises) ∧
      ∀ uid ∈ (s.selected e).backlog, s.settled uid = true ∨ (e.fetch uid).settles = true

/-! ### The selection -/

variable {uids : List Nat} {limit : Int} {cursor uid v : Nat}

/-- An ascending list is cut into older and recent messages. -/
theorem mem_selected (h : uid ∈ uids) (limit : Int) (cursor : Nat) :
    uid ∈ (selectRecoveryUids uids limit cursor).recent ∨
      uid ∈ uids.take (uids.length - (max 1 limit).toNat) := by
  rw [← List.take_append_drop (uids.length - (max 1 limit).toNat) uids] at h
  exact (List.mem_append.mp h).symm

/-- The backlog lies beyond the cursor. -/
theorem mem_backlog (h : v ∈ (selectRecoveryUids uids limit cursor).backlog) :
    v ∈ uids.take (uids.length - (max 1 limit).toNat) ∧ cursor < v := by
  have hmem := List.mem_filter.mp (List.mem_of_mem_take h)
  exact ⟨hmem.1, of_decide_eq_true hmem.2⟩

/-- The front of an ascending list is closed downwards. -/
theorem mem_take_of_le {l : List Nat} (hsorted : l.Pairwise (· < ·)) {n : Nat} (hv : v ∈ l.take n)
    (huid : uid ∈ l) (hle : uid ≤ v) : uid ∈ l.take n := by
  rw [← List.take_append_drop n l] at huid hsorted
  rcases List.mem_append.mp huid with h | h
  · exact h
  · have hlt : v < uid := (List.pairwise_append.mp hsorted).2.2 v hv uid h
    omega

/-- **An older message beyond the cursor** is in the page, or the whole page lies before it. -/
theorem backlog_or_before (hsorted : uids.Pairwise (· < ·))
    (huid : uid ∈ uids.take (uids.length - (max 1 limit).toNat)) (hbeyond : cursor < uid) :
    uid ∈ (selectRecoveryUids uids limit cursor).backlog ∨
      (selectRecoveryUids uids limit cursor).backlog ≠ [] ∧
        ∀ v ∈ (selectRecoveryUids uids limit cursor).backlog, v < uid := by
  have hfilter : uid ∈ (uids.take (uids.length - (max 1 limit).toNat)).filter
      fun uid => decide (cursor < uid) :=
    List.mem_filter.mpr ⟨huid, decide_eq_true hbeyond⟩
  have hascending : ((uids.take (uids.length - (max 1 limit).toNat)).filter
      fun uid => decide (cursor < uid)).Pairwise (· < ·) :=
    (hsorted.sublist (List.take_sublist ..)).sublist List.filter_sublist
  by_cases hpage : uid ∈ (selectRecoveryUids uids limit cursor).backlog
  · exact Or.inl hpage
  · refine Or.inr ⟨?_, fun v hv => ?_⟩
    · -- the page holds at least one message, and there is one
      show List.take (max 1 limit).toNat _ ≠ []
      have hone : (max 1 limit).toNat ≠ 0 := by omega
      rw [Ne, List.take_eq_nil_iff, not_or]
      exact ⟨hone, List.ne_nil_of_mem hfilter⟩
    · by_contra hnot
      exact hpage (mem_take_of_le hascending hv hfilter (Nat.le_of_not_lt hnot))

/-- What the page stops at, it has read from the cursor on. -/
theorem mem_backlog_of_le (hsorted : uids.Pairwise (· < ·)) (huid : uid ∈ uids)
    (hbeyond : cursor < uid) (hv : v ∈ (selectRecoveryUids uids limit cursor).backlog)
    (hle : uid ≤ v) : uid ∈ (selectRecoveryUids uids limit cursor).backlog := by
  have holder : uid ∈ uids.take (uids.length - (max 1 limit).toNat) :=
    mem_take_of_le hsorted (mem_backlog hv).1 huid hle
  rcases backlog_or_before hsorted holder hbeyond with h | ⟨-, hbefore⟩
  · exact h
  · exact absurd (hbefore v hv) (Nat.not_lt.mpr hle)

/-! ### One run -/

variable {fetch : Nat → FetchedMail}

/-- **A loop that no message ends** reads all, and settles what it can. -/
theorem loop_spec (backlog : Bool) (h : ∀ uid ∈ uids, fetch uid ≠ .raises) (r : Reading) :
    (r.loop backlog fetch uids).2 = true ∧
      (r.loop backlog fetch uids).1.cursor = (if backlog then uids.getLastD r.cursor else r.cursor) ∧
      (∀ v, v ∈ (r.loop backlog fetch uids).1.examined ↔ v ∈ uids ∨ v ∈ r.examined) ∧
      ∀ v, (r.loop backlog fetch uids).1.settled v = true ↔
        r.settled v = true ∨ v ∈ uids ∧ (fetch v).settles = true := by
  induction uids generalizing r with
  | nil => simp [Reading.loop]
  | cons uid rest ih =>
    have hgo : fetch uid ≠ .raises := h uid (List.mem_cons_self ..)
    obtain ⟨hend, hcursor, hexamined, hsettled⟩ :=
      ih (fun v hv => h v (List.mem_cons_of_mem _ hv)) (r.examine backlog uid (fetch uid))
    rw [Reading.loop, if_neg hgo]
    refine ⟨hend, ?_, fun v => ?_, fun v => ?_⟩
    · rw [hcursor]
      cases backlog with
      | true =>
        rw [if_pos rfl, if_pos rfl, List.getLastD_cons]
        rfl
      | false => rfl
    · rw [hexamined]
      simp only [Reading.examine, List.mem_cons]
      tauto
    · rw [hsettled]
      simp only [Reading.examine, Bool.or_eq_true, Bool.and_eq_true, beq_iff_eq, List.mem_cons]
      constructor
      · rintro ((hold | ⟨rfl, hnew⟩) | ⟨hv, hlater⟩)
        · exact Or.inl hold
        · exact Or.inr ⟨Or.inl rfl, hnew⟩
        · exact Or.inr ⟨Or.inr hv, hlater⟩
      · rintro (hold | ⟨rfl | hv, hnew⟩)
        · exact Or.inl (Or.inl hold)
        · exact Or.inl (Or.inr ⟨rfl, hnew⟩)
        · exact Or.inr ⟨hv, hnew⟩

variable {s : Recovery} {e : RecoveryRun}

/-- **A run that no message ends.** -/
theorem read_spec (h : ∀ uid ∈ (s.selected e).recent ++ (s.selected e).backlog,
    e.fetch uid ≠ .raises) :
    (s.read e).cursor = (s.selected e).backlog.getLastD s.cursor ∧
      (∀ v, v ∈ (s.read e).examined ↔
        v ∈ (s.selected e).recent ∨ v ∈ (s.selected e).backlog) ∧
      ∀ v, (s.read e).settled v = true ↔ s.settled v = true ∨
        (v ∈ (s.selected e).recent ∨ v ∈ (s.selected e).backlog) ∧
          (e.fetch v).settles = true := by
  obtain ⟨hend, hcursor, hexamined, hsettled⟩ := loop_spec false
    (fun v hv => h v (List.mem_append_left _ hv))
    { cursor := s.cursor, settled := s.settled }
  obtain ⟨-, hcursor', hexamined', hsettled'⟩ := loop_spec true
    (fun v hv => h v (List.mem_append_right _ hv))
    (Reading.loop false e.fetch (s.selected e).recent
      { cursor := s.cursor, settled := s.settled }).1
  unfold Recovery.read
  simp only [hend, if_true]
  refine ⟨?_, fun v => ?_, fun v => ?_⟩
  · rw [hcursor', hcursor]
    rfl
  · rw [hexamined', hexamined]
    simp only [List.not_mem_nil, or_false]
    exact or_comm
  · rw [hsettled', hsettled]
    tauto

/-! ### What a history keeps -/

/-- The messages are in the order of their arrival, and the cursor is no message to come. -/
structure Recovery.Ordered (s : Recovery) : Prop where
  sorted : s.mailbox.Pairwise (· < ·)
  arrived : ∀ uid ∈ s.mailbox, 0 < uid ∧ uid < s.uidNext
  cursor : s.cursor < s.uidNext

/-- The cursor has passed settled messages only. -/
def Recovery.Passed (s : Recovery) : Prop :=
  ∀ uid ∈ s.mailbox, s.outside uid = false → uid ≤ s.cursor → s.settled uid = true

variable {ev : RecoveryEvent}

theorem ordered_empty : ({} : Recovery).Ordered :=
  ⟨List.Pairwise.nil, fun _ h => absurd h List.not_mem_nil, Nat.one_pos⟩

/-- What a search shows of an ordered mailbox is ordered. -/
theorem Recovery.Ordered.filter (h : s.Ordered) (window : Nat → Bool) :
    (s.mailbox.filter window).Pairwise (· < ·) :=
  h.sorted.sublist List.filter_sublist

/-- The backlog of a run is of the mailbox, in the window and beyond the cursor. -/
theorem mem_selected_backlog (h : v ∈ (s.selected e).backlog) :
    ∃ window, e.search = some window ∧ v ∈ s.mailbox.filter window ∧ s.cursor < v := by
  rcases hsearch : e.search with - | window
  · rw [Recovery.selected, hsearch] at h
    exact absurd h List.not_mem_nil
  · rw [Recovery.selected, hsearch] at h
    obtain ⟨holder, hbeyond⟩ := mem_backlog h
    exact ⟨window, rfl, List.mem_of_mem_take holder, hbeyond⟩

/-- The new cursor is the old one, or the last message of the backlog. -/
theorem cursor_of_read (h : BacklogSettles s (.runs e)) :
    (s.read e).cursor = s.cursor ∧ (s.selected e).backlog = [] ∨
      (s.read e).cursor ∈ (s.selected e).backlog := by
  rw [(read_spec h.1).1]
  rcases hpage : (s.selected e).backlog with - | ⟨v, page⟩
  · exact Or.inl ⟨rfl, rfl⟩
  · right
    rw [List.getLastD_cons, ← List.getLast_eq_getLastD]
    exact List.getLast_mem (List.cons_ne_nil v page)

theorem Recovery.Ordered.step (h : s.Ordered) (hC : BacklogSettles s ev) :
    (recoveryStep s ev).Ordered := by
  cases ev with
  | arrives others =>
    constructor
    · show (s.mailbox ++ [s.uidNext + others]).Pairwise (· < ·)
      apply List.pairwise_append.mpr
      refine ⟨h.sorted, List.pairwise_singleton _ _, fun uid huid v hv => ?_⟩
      rw [List.mem_singleton.mp hv]
      exact Nat.lt_add_right others (h.arrived uid huid).2
    · show ∀ uid ∈ s.mailbox ++ [s.uidNext + others], 0 < uid ∧ uid < s.uidNext + others + 1
      intro uid huid
      rcases List.mem_append.mp huid with hold | hnew
      · have := h.arrived uid hold
        omega
      · have := h.cursor
        rw [List.mem_singleton.mp hnew]
        omega
    · have := h.cursor
      show s.cursor < s.uidNext + others + 1
      omega
  | runs e =>
    refine ⟨h.sorted, h.arrived, ?_⟩
    show (s.read e).cursor < s.uidNext
    rcases cursor_of_read hC with ⟨hsame, -⟩ | hpage
    · rw [hsame]
      exact h.cursor
    · obtain ⟨window, -, hmem, -⟩ := mem_selected_backlog hpage
      exact (h.arrived _ (List.mem_of_mem_filter hmem)).2

/-- **The cursor keeps to settled messages**, where the backlog settles. -/
theorem Recovery.Passed.step (h : s.Passed) (hordered : s.Ordered) (hC : BacklogSettles s ev) :
    (recoveryStep s ev).Passed := by
  cases ev with
  | arrives others =>
    show ∀ uid ∈ s.mailbox ++ [s.uidNext + others], s.outside uid = false → uid ≤ s.cursor →
      s.settled uid = true
    intro uid huid hinside hle
    rcases List.mem_append.mp huid with hold | hnew
    · exact h uid hold hinside hle
    · have hcursor := hordered.cursor
      rw [List.mem_singleton.mp hnew] at hle
      omega
  | runs e =>
    show ∀ uid ∈ s.mailbox, (s.outside uid || e.search.any fun window => !window uid) = false →
      uid ≤ (s.read e).cursor → (s.read e).settled uid = true
    intro uid huid hinside hle
    obtain ⟨hbefore, hsearch⟩ := Bool.or_eq_false_iff.mp hinside
    have hsettled := (read_spec hC.1).2.2 uid
    by_cases hpassed : uid ≤ s.cursor
    · exact hsettled.mpr (Or.inl (h uid huid hbefore hpassed))
    · -- the cursor has come past the message in this run, so the message was in its backlog
      rcases cursor_of_read hC with ⟨hsame, -⟩ | hpage
      · rw [hsame] at hle
        exact absurd hle hpassed
      · obtain ⟨window, hwindow, -, -⟩ := mem_selected_backlog hpage
        rw [hwindow, Option.any_some, Bool.not_eq_false'] at hsearch
        have hshown : uid ∈ s.mailbox.filter window := List.mem_filter.mpr ⟨huid, hsearch⟩
        have hread : uid ∈ (s.selected e).backlog := by
          rw [Recovery.selected, hwindow] at hpage ⊢
          exact mem_backlog_of_le (hordered.filter window) hshown (Nat.lt_of_not_le hpassed)
            hpage hle
        rcases hC.2 uid hread with hdone | hnow
        · exact hsettled.mpr (Or.inl hdone)
        · exact hsettled.mpr (Or.inr ⟨Or.inr hread, hnow⟩)

/-- **Each search reads the message, or comes nearer to it.** -/
theorem read_or_nearer {window : Nat → Bool} (hordered : s.Ordered)
    (hC : BacklogSettles s (.runs e)) (hsearch : e.search = some window)
    (huid : uid ∈ s.mailbox) (hshown : window uid = true) (hbeyond : s.cursor < uid) :
    uid ∈ (s.read e).examined ∨ s.cursor < (s.read e).cursor ∧ (s.read e).cursor < uid := by
  have hmem : uid ∈ s.mailbox.filter window := List.mem_filter.mpr ⟨huid, hshown⟩
  have hselected : s.selected e =
      selectRecoveryUids (s.mailbox.filter window) e.limit s.cursor := by
    rw [Recovery.selected, hsearch]
  have hexamined := (read_spec hC.1).2.1 uid
  rcases mem_selected hmem e.limit s.cursor with hrecent | holder
  · rw [← hselected] at hrecent
    exact Or.inl (hexamined.mpr (Or.inl hrecent))
  rcases backlog_or_before (hordered.filter window) holder hbeyond with hpage | ⟨hne, hbefore⟩
  · rw [← hselected] at hpage
    exact Or.inl (hexamined.mpr (Or.inr hpage))
  · rw [← hselected] at hne hbefore
    right
    rcases cursor_of_read hC with ⟨-, hempty⟩ | hcursor
    · exact absurd hempty hne
    · obtain ⟨-, -, -, hlater⟩ := mem_selected_backlog hcursor
      exact ⟨hlater, hbefore _ hcursor⟩

/-- **A message beyond the cursor is read again**, by the time of as many searches. -/
theorem readAgain_of_searches {es : List RecoveryEvent} (hordered : s.Ordered)
    (huid : uid ∈ s.mailbox) (hbeyond : s.cursor < uid)
    (hC : Along recoveryStep BacklogSettles s es) (hshown : ∀ ev ∈ es, ev.Shows uid)
    (hmany : uid - s.cursor ≤ es.countP RecoveryEvent.searches) : ReadAgain uid s es := by
  induction es generalizing s with
  | nil =>
    rw [List.countP_nil] at hmany
    omega
  | cons ev es ih =>
    have hordered' := hordered.step hC.1
    have hshown' : ∀ ev ∈ es, ev.Shows uid := fun ev' h => hshown ev' (List.mem_cons_of_mem _ h)
    cases ev with
    | arrives others =>
      exact Or.inr (ih hordered' (List.mem_append_left _ huid) hbeyond hC.2 hshown' hmany)
    | runs e =>
      rw [List.countP_cons] at hmany
      rcases hsearch : e.search with - | window
      · -- a run without a search reads nothing and leaves the cursor
        have hnone : s.selected e = ⟨[], []⟩ := by rw [Recovery.selected, hsearch]
        have hcursor : (s.read e).cursor = s.cursor := by
          rw [(read_spec hC.1.1).1, hnone]
          rfl
        have hfew : (RecoveryEvent.runs e).searches = false := by
          show e.search.isSome = false
          rw [hsearch]
          rfl
        rw [hfew] at hmany
        refine Or.inr (ih hordered' huid ?_ hC.2 hshown' ?_)
        · show (s.read e).cursor < uid
          rw [hcursor]
          exact hbeyond
        · show uid - (s.read e).cursor ≤ _
          rw [hcursor]
          exact hmany
      · have hwindow : window uid = true :=
          hshown _ (List.mem_cons_self ..) window hsearch
        rcases read_or_nearer hordered hC.1 hsearch huid hwindow hbeyond with hread | ⟨hup, hlow⟩
        · exact Or.inl hread
        · refine Or.inr (ih hordered' huid hlow hC.2 hshown' ?_)
          show uid - (s.read e).cursor ≤ _
          split at hmany <;> omega

/-- **No message is lost**, where no message ends a run and what the backlog reads is settled. -/
theorem noneLost (es : List RecoveryEvent) (h : Along recoveryStep BacklogSettles {} es) :
    NoneLost BacklogSettles (run recoveryStep {} es) := by
  have hkept : Always recoveryStep (fun s => s.Ordered ∧ s.Passed) {} es :=
    always_of_along (fun s ev hs hC => ⟨hs.1.step hC, hs.2.step hs.1 hC⟩)
      ⟨ordered_empty, fun _ hmem => absurd hmem List.not_mem_nil⟩ h
  obtain ⟨hordered, hpassed⟩ := hkept.last
  refine ⟨hpassed, fun uid huid hinside hopen => ⟨uid, fun later hC hshown hmany => ?_⟩⟩
  have hbeyond : (run recoveryStep {} es).cursor < uid := by
    by_contra hle
    rw [hpassed uid huid hinside (Nat.le_of_not_lt hle)] at hopen
    cases hopen
  exact readAgain_of_searches hordered huid hbeyond hC hshown ((Nat.sub_le ..).trans hmany)

section Inputs

/-- A notification of an order of a shop. -/
def shopMail (recover : RecoverResult) : FetchedMail :=
  .candidate { accountSlug := "playerauctions-vapenation234", recover := some recover }

/-- Two notifications, and a run that reads one message of the backlog; the relay cannot parse the
first order. -/
def failsOnce : List RecoveryEvent :=
  [.arrives 0, .arrives 0,
    .runs { limit := 1, fetch := fun uid => shopMail (if uid = 1 then .parseFailed else .recovered) }]

/-- A later run, in which all would go well. -/
def goesWell : RecoveryEvent :=
  .runs { limit := 1, fetch := fun _ => shopMail .recovered }

/-- An inbox whose backlog settles. -/
theorem noneLost_goesWell :
    NoneLost BacklogSettles (run recoveryStep {} [.arrives 0, .arrives 0, goesWell]) := by
  apply noneLost
  refine ⟨trivial, trivial, ⟨?_, ?_⟩, trivial⟩
  · decide
  · decide

/-- Once the cursor is past the first message, no run reads it. -/
theorem not_readAgain {s : Recovery} (hmailbox : s.mailbox = [1, 2]) (hcursor : s.cursor = 1)
    (n : Nat) : ¬ ReadAgain 1 s (List.replicate n goesWell) := by
  induction n generalizing s with
  | zero => exact not_false
  | succ n ih =>
    obtain ⟨mailbox, uidNext, cursor, settled, outside⟩ := s
    subst hmailbox
    subst hcursor
    rw [List.replicate_succ]
    rintro (hnow | hlater)
    · have hnow : 1 ∈ [2] := hnow
      exact absurd hnow (by decide)
    · exact ih rfl rfl hlater

/-- **The first order is lost.** -/
theorem lost : ¬ ∀ es, NoneLost (fun _ _ => True) (run recoveryStep {} es) := by
  intro h
  obtain ⟨bound, hread⟩ := (h failsOnce).readAgain 1 (by decide) (by decide) (by decide)
  refine not_readAgain (s := run recoveryStep {} failsOnce) (by decide) (by decide) bound
    (hread _ (along_of_forall (fun _ _ => trivial) _ _) ?_ ?_)
  · intro ev hev
    rw [List.eq_of_mem_replicate hev]
    exact fun window hwindow => by cases hwindow; rfl
  · rw [List.countP_replicate]
    exact le_refl _

end Inputs

end Sda.Sync
