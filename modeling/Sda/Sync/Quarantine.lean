/-
Sda/Sync/Quarantine.lean

How often an item that never applies can hold the checkpoint back.

A payload that does not apply holds the checkpoint back as long as its row has
an attempt left, and is quarantined afterwards.  The row counts the attempts;
new content starts the count over, and a page that is rolled back leaves it
alone.

* `commits` — the pages a run commits, `blockers` — the ids that hold the
  checkpoint back on one of them;
* `attemptsOn` — the attempts on one content, which no run takes back
  (`attemptsOn_step`) and every run that is held back adds to;
* `bounded_blocking` — one content holds back fewer than
  `MAX_PARSE_RETRY_ATTEMPTS` runs, and a page without blockers moves the
  checkpoint;
* `bounded_blocking_fails` — content that differs on every fetch holds back
  every run.
-/
import Sda.Lib.Budget
import Sda.Sync.Pages

namespace Sda.Sync

section Quarantine

variable {ι δ : Type} [DecidableEq ι]
variable {svc : Service ι} {ses : Session ι δ} {isSeen : ι → Bool} {now n : Nat}
variable {item : ι} {items : List ι} {pg pg' : Page ι δ} {k : String} {payload : ι}

/-! ### What holds a page back -/

/-- Does the item fail with an attempt left? -/
def holdsBack (svc : Service ι) (ses : Session ι δ) (now n : Nat) (pg : Page ι δ) (item : ι) :
    Bool :=
  !svc.shouldSkipItem item &&
    match ses.prepareItem n item with
    | .item payload =>
      (applyItem svc ses now n (remoteKey svc item) payload
        { pg with pageParseFailed := false }).pageParseFailed
    | _ => false

/-- The ids that hold the checkpoint back on a page. -/
def blockers (svc : Service ι) (ses : Session ι δ) (isSeen : ι → Bool) (now n : Nat) :
    List ι → Page ι δ → List String
  | [], _ => []
  | item :: items, pg =>
    if isSeen item then
      []
    else
      match ingestItem svc ses now n pg item with
      | .error _ => []
      | .ok pg' =>
        (if holdsBack svc ses now n pg item then [remoteKey svc item] else []) ++
          blockers svc ses isSeen now n items pg'

/-- The flag of a page is only added to. -/
theorem applyItem_flag (svc : Service ι) (ses : Session ι δ) (now n : Nat) (remoteId : String)
    (payload : ι) (pg : Page ι δ) :
    (applyItem svc ses now n remoteId payload pg).pageParseFailed
      = (pg.pageParseFailed || (applyItem svc ses now n remoteId payload
          { pg with pageParseFailed := false }).pageParseFailed) := by
  unfold applyItem
  dsimp only
  split
  · exact (Bool.or_false _).symm
  · dsimp only
    rw [Bool.false_or]

/-- The flag does not depend on the newest item. -/
theorem applyItem_noteFirst (svc : Service ι) (ses : Session ι δ) (now n : Nat)
    (remoteId : String) (payload item : ι) (pg : Page ι δ) :
    (applyItem svc ses now n remoteId payload (Page.noteFirst svc pg item)).pageParseFailed
        = (applyItem svc ses now n remoteId payload pg).pageParseFailed ∧
      (applyItem svc ses now n remoteId payload (Page.noteFirst svc pg item)).raws
        = (applyItem svc ses now n remoteId payload pg).raws := by
  unfold applyItem
  dsimp only
  split <;> exact ⟨rfl, rfl⟩

/-- **One item** sets the flag of its page exactly if it holds back. -/
theorem ingestItem_flag (h : ingestItem svc ses now n pg item = .ok pg') :
    pg'.pageParseFailed = (pg.pageParseFailed || holdsBack svc ses now n pg item) := by
  obtain ⟨-, pg₁, errors, rfl, hcases⟩ := ingestItem_cases h
  unfold holdsBack
  rcases hcases with ⟨hskip, -, rfl⟩ | ⟨hskip, hprepare, -, rfl⟩ | ⟨hskip, -, payload, hprepare, rfl⟩
  · rw [hskip]
    exact (Bool.or_false _).symm
  · rw [hskip, hprepare]
    exact (Bool.or_false _).symm
  · rw [hskip, hprepare]
    show (applyItem svc ses now n _ payload (Page.noteFirst svc pg item)).pageParseFailed = _
    rw [(applyItem_noteFirst ..).1, applyItem_flag]
    rfl

/-- **A page** has its flag set exactly if something holds it back. -/
theorem ingestItems_flag (h : ingestItems svc ses isSeen now n items pg = .ok pg') :
    pg'.pageParseFailed
      = (pg.pageParseFailed || !(blockers svc ses isSeen now n items pg).isEmpty) := by
  induction items generalizing pg with
  | nil =>
    cases h
    exact (Bool.or_false _).symm
  | cons item items ih =>
    by_cases hseen : isSeen item = true
    · rw [ingestItems_cons_seen hseen] at h
      cases h
      rw [blockers, if_pos hseen]
      exact (Bool.or_false _).symm
    · obtain ⟨pg₁, hitem, hrest⟩ := ingestItems_cons_ok (Bool.not_eq_true _ ▸ hseen) h
      rw [ih hrest, ingestItem_flag hitem, blockers, if_neg hseen, hitem]
      dsimp only
      -- the head is a blocker or not
      rcases holdsBack svc ses now n pg item with - | -
      · simp
      · simp

/-- The last item of a page, among those above the stop. -/
theorem ingestItems_last (h : ingestItems svc ses isSeen now n items pg = .ok pg') :
    pg'.last = ((above isSeen items).getLast?.map fun x =>
      (remoteKey svc x, svc.extractRemoteTimestamp x)).or pg.last := by
  induction items generalizing pg with
  | nil =>
    cases h
    rfl
  | cons item items ih =>
    by_cases hseen : isSeen item = true
    · rw [ingestItems_cons_seen hseen] at h
      cases h
      rw [above_cons_of_stop hseen]
      rfl
    · have hseen' := Bool.not_eq_true _ ▸ hseen
      obtain ⟨pg₁, hitem, hrest⟩ := ingestItems_cons_ok hseen' h
      rw [ih hrest, (ingestItem_flow hitem).2.2.1, above_cons hseen']
      rcases hrest' : (above isSeen items).getLast? with - | x
      · rw [List.getLast?_eq_none_iff.mp hrest']
        rfl
      · rw [List.getLast?_cons, hrest']
        rfl

/-! ### The attempts on one content -/

/-- The provider returns the item at call `n`. -/
def Fetched (ses : Session ι δ) (n : Nat) (item : ι) : Prop :=
  ∃ cp items nextCursor cp', ses.fetchPage n cp = (.ok (items, nextCursor), cp') ∧ item ∈ items

/-- Whatever the provider returns for the item, it does not apply. -/
def NeverApplies (svc : Service ι) (ses : Session ι δ) (k : String) : Prop :=
  ∀ n item payload domain, Fetched ses n item → remoteKey svc item = k →
    ses.prepareItem n item = .item payload → (ses.parseAndApply n payload domain).1.isOk = false

/-- The provider returns this content for the item. -/
def Returns (svc : Service ι) (ses : Session ι δ) (k : String) (content : ι) : Prop :=
  ∀ n item payload, Fetched ses n item → remoteKey svc item = k →
    ses.prepareItem n item = .item payload → payload = content

/-- The attempts a row counts for a content. -/
def attemptsOn (content : ι) : Option (RawPayload ι) → Nat
  | none => 0
  | some raw => if raw.payload = content then raw.parseAttempts else 0

/-- The row of the content is not taken back, and a failure that holds the checkpoint back
uses an attempt. -/
def Spends (svc : Service ι) (content : ι) (row row' : Option (RawPayload ι)) (blocked : Prop) :
    Prop :=
  attemptsOn content row ≤ attemptsOn content row' ∧
    (blocked → attemptsOn content row + 1 < svc.maxParseRetryAttempts ∧
      attemptsOn content row < attemptsOn content row')

/-- Storing the content keeps its attempts. -/
theorem attemptsOn_ingestRaw (now : Nat) (content : ι) (old : Option (RawPayload ι)) :
    (ingestRaw now content old).parseAttempts = attemptsOn content old := by
  rcases old with - | raw
  · rfl
  by_cases hpayload : raw.payload = content
  · by_cases hfailed : raw.parseStatus = .failed
    · rw [ingestRaw, if_pos (.inr hfailed)]
      simp [attemptsOn, hpayload]
    · rw [ingestRaw, if_neg (by simp [hpayload, hfailed])]
      simp [attemptsOn, hpayload]
  · rw [ingestRaw, if_pos (.inl hpayload)]
    simp [attemptsOn, hpayload]

omit [DecidableEq ι] in
/-- Another row, or the same one again. -/
theorem Spends.refl [DecidableEq ι] (svc : Service ι) (content : ι) (row : Option (RawPayload ι)) :
    Spends svc content row row False :=
  ⟨Nat.le_refl _, False.elim⟩

/-- What is spent first or later is spent. -/
theorem Spends.trans {row row' row'' : Option (RawPayload ι)} {p q : Prop}
    (h : Spends svc payload row row' p) (h' : Spends svc payload row' row'' q) :
    Spends svc payload row row'' (p ∨ q) := by
  obtain ⟨hkeep, hspend⟩ := h
  obtain ⟨hkeep', hspend'⟩ := h'
  refine ⟨hkeep.trans hkeep', ?_⟩
  rintro (hp | hq)
  · have := hspend hp
    omega
  · have := hspend' hq
    omega

theorem Spends.mono {row row' : Option (RawPayload ι)} {p q : Prop}
    (h : Spends svc payload row row' p) (hqp : q → p) : Spends svc payload row row' q :=
  ⟨h.1, fun hq => h.2 (hqp hq)⟩

/-- **One failing payload**: its row after the application. -/
theorem applyItem_spends (hfails : ∀ domain, (ses.parseAndApply n payload domain).1.isOk = false)
    (now : Nat) (k : String) (pg : Page ι δ) :
    Spends svc payload (pg.raws k) ((applyItem svc ses now n k payload pg).raws k)
      ((applyItem svc ses now n k payload { pg with pageParseFailed := false }).pageParseFailed
        = true) := by
  have hcount := attemptsOn_ingestRaw now payload (pg.raws k)
  have hpayload := ingestRaw_payload now payload (pg.raws k)
  have hstored : attemptsOn payload (some (ingestRaw now payload (pg.raws k)))
      = attemptsOn payload (pg.raws k) := by
    rw [attemptsOn, if_pos hpayload, hcount]
  unfold applyItem
  dsimp only
  by_cases hphase : ses.phase = .ingest
  · rw [if_pos hphase, if_pos hphase]
    dsimp only
    rw [Function.update_self]
    exact ⟨hstored.ge, Bool.noConfusion⟩
  rw [if_neg hphase, if_neg hphase]
  unfold tryParse
  by_cases hpending : (ingestRaw now payload (pg.raws k)).parseStatus = .pending
  · rw [if_neg (not_not.mpr hpending), hpayload]
    have hfail := hfails pg.domain
    rcases hparse : ses.parseAndApply n payload pg.domain with ⟨message | result, domain⟩
    · -- the failure is counted, and blocks below the limit
      dsimp only
      rw [Function.update_self]
      have hafter : attemptsOn payload
          (some ((ingestRaw now payload (pg.raws k)).settle now (.error message)))
            = attemptsOn payload (pg.raws k) + 1 := by
        rw [attemptsOn, settle_payload, if_pos hpayload, ← hcount]
        rfl
      refine ⟨by omega, fun hblocks => ⟨?_, by omega⟩⟩
      have hlimit : (ingestRaw now payload (pg.raws k)).parseAttempts + 1
          < svc.maxParseRetryAttempts := of_decide_eq_true hblocks
      rwa [hcount] at hlimit
    · rw [hparse] at hfail
      cases hfail
  · rw [if_pos hpending]
    dsimp only
    rw [Function.update_self]
    exact ⟨hstored.ge, Bool.noConfusion⟩

/-- **One item of the page**. -/
theorem ingestItem_spends (hfails : NeverApplies svc ses k) (hreturns : Returns svc ses k payload)
    (hfetched : Fetched ses n item) (h : ingestItem svc ses now n pg item = .ok pg') :
    Spends svc payload (pg.raws k) (pg'.raws k)
      (remoteKey svc item = k ∧ holdsBack svc ses now n pg item = true) := by
  obtain ⟨-, pg₁, errors, rfl, hcases⟩ := ingestItem_cases h
  unfold holdsBack
  rcases hcases with ⟨hskip, -, rfl⟩ | ⟨hskip, hprepare, -, rfl⟩ |
    ⟨hskip, -, payload', hprepare, rfl⟩
  · rw [hskip]
    exact (Spends.refl svc payload _).mono fun h => nomatch h.2
  · rw [hskip, hprepare]
    exact (Spends.refl svc payload _).mono fun h => nomatch h.2
  rw [hskip, hprepare]
  show Spends svc payload _ ((applyItem svc ses now n _ payload' (Page.noteFirst svc pg item)).raws k) _
  rw [(applyItem_noteFirst ..).2]
  by_cases hkey : remoteKey svc item = k
  · subst hkey
    obtain rfl := hreturns n item payload' hfetched rfl hprepare
    have hfail := fun domain => hfails n item payload' domain hfetched rfl hprepare
    exact (applyItem_spends hfail now _ pg).mono And.right
  · rw [(applyItem_stores svc ses n item payload' pg (Nat.zero_le now)).other k]
    · exact (Spends.refl svc payload _).mono fun h => hkey h.1
    · intro x hx
      rw [List.mem_singleton.mp hx]
      exact hkey

/-- **A page**. -/
theorem ingestItems_spends (hfails : NeverApplies svc ses k) (hreturns : Returns svc ses k payload)
    (hfetched : ∀ x ∈ items, Fetched ses n x)
    (h : ingestItems svc ses isSeen now n items pg = .ok pg') :
    Spends svc payload (pg.raws k) (pg'.raws k) (k ∈ blockers svc ses isSeen now n items pg) := by
  induction items generalizing pg with
  | nil =>
    cases h
    exact (Spends.refl svc payload _).mono nofun
  | cons item items ih =>
    by_cases hseen : isSeen item = true
    · rw [ingestItems_cons_seen hseen] at h
      cases h
      rw [blockers, if_pos hseen]
      exact (Spends.refl svc payload _).mono nofun
    · obtain ⟨pg₁, hitem, hrest⟩ := ingestItems_cons_ok (Bool.not_eq_true _ ▸ hseen) h
      have hhead := ingestItem_spends hfails hreturns (hfetched item List.mem_cons_self) hitem
      have htail := ih (fun x hx => hfetched x (List.mem_cons_of_mem _ hx)) hrest
      refine (hhead.trans htail).mono fun hk => ?_
      rw [blockers, if_neg hseen, hitem] at hk
      refine (List.mem_append.mp hk).imp_left fun hhead => ?_
      by_cases hback : holdsBack svc ses now n pg item = true
      · rw [if_pos hback, List.mem_singleton] at hhead
        exact ⟨hhead.symm, hback⟩
      · rw [if_neg hback] at hhead
        cases hhead

/-! ### The pages a run commits -/

/-- A page that is committed: the loop before and after it. -/
structure Commit (ι δ : Type) where
  call : Nat
  items : List ι
  nextCursor : String
  before : Loop ι δ
  after : Loop ι δ

/-- The pages `fetchPages` commits. -/
def commits (svc : Service ι) (ses : Session ι δ) (start : SyncCheckpoint) :
    Nat → Nat → Loop ι δ → List (Commit ι δ)
  | 0, _, _ => []
  | calls + 1, n, l =>
    let l := l.beforeFetch (ses.pause n)
    match ses.fetchPage n l.checkpoint with
    | (.error _, _) => []
    | (.ok (items, nextCursor), checkpoint) =>
      if items.isEmpty then
        []
      else
        match readPage svc ses start n items nextCursor { l with checkpoint } with
        | .error _ => []
        | .ok (l', caughtUp) =>
          ⟨n, items, nextCursor, { l with checkpoint }, l'⟩ ::
            if l'.parseFailedAny || caughtUp || nextCursor == "" then []
            else if pageLimitReached svc l'.pagesFetched then []
            else commits svc ses start calls (n + 1) l'

/-- Does the page end at the item? -/
def Commit.stops (svc : Service ι) (start : SyncCheckpoint) (c : Commit ι δ) : ι → Bool :=
  seen svc start c.before.stopTimestamp

/-- The ids that hold the checkpoint back on the page. -/
def Commit.blockers (svc : Service ι) (ses : Session ι δ) (start : SyncCheckpoint)
    (c : Commit ι δ) : List String :=
  Sync.blockers svc ses (c.stops svc start) c.before.now c.call c.items
    { raws := c.before.raws, domain := c.before.domain, run := c.before.run,
      first := c.before.first }

/-- The checkpoint moved past the page. -/
def Commit.passed (svc : Service ι) (start : SyncCheckpoint) (c : Commit ι δ) : SyncCheckpoint :=
  match (above (c.stops svc start) c.items).getLast? with
  | none => c.before.checkpoint
  | some item =>
    let last := (remoteKey svc item, svc.extractRemoteTimestamp item)
    let mark := if c.before.checkpoint.mode = .incremental then c.after.first.getD last else last
    c.before.checkpoint.advance mark.1 mark.2 c.nextCursor c.before.now

variable {start : SyncCheckpoint} {nextCursor : String} {l l' : Loop ι δ} {caughtUp : Bool}

/-- **What a committed page is**: the one of the next call, or one of the calls after it. -/
theorem mem_commits {c : Commit ι δ} {calls : Nat} (h : c ∈ commits svc ses start (calls + 1) n l) :
    ∃ items nextCursor cp l' caughtUp,
      ses.fetchPage n l.checkpoint = (.ok (items, nextCursor), cp) ∧ items ≠ [] ∧
        readPage svc ses start n items nextCursor
          { l.beforeFetch (ses.pause n) with checkpoint := cp } = .ok (l', caughtUp) ∧
        (c = ⟨n, items, nextCursor, { l.beforeFetch (ses.pause n) with checkpoint := cp }, l'⟩ ∨
          (l'.parseFailedAny || caughtUp || nextCursor == "") = false ∧
            pageLimitReached svc l'.pagesFetched = false ∧
            c ∈ commits svc ses start calls (n + 1) l') := by
  rw [commits] at h
  rw [show (l.beforeFetch (ses.pause n)).checkpoint = l.checkpoint from rfl] at h
  rcases hfetch : ses.fetchPage n l.checkpoint with ⟨exc | ⟨items, nextCursor⟩, cp⟩
  · rw [hfetch] at h
    exact absurd h List.not_mem_nil
  rw [hfetch] at h
  dsimp only at h
  by_cases hempty : items.isEmpty = true
  · rw [if_pos hempty] at h
    exact absurd h List.not_mem_nil
  rw [if_neg hempty] at h
  rcases hread : readPage svc ses start n items nextCursor
      { l.beforeFetch (ses.pause n) with checkpoint := cp } with exc | ⟨l', caughtUp⟩
  · rw [hread] at h
    exact absurd h List.not_mem_nil
  rw [hread] at h
  refine ⟨items, nextCursor, cp, l', caughtUp, rfl, by simpa using hempty, hread, ?_⟩
  rcases List.mem_cons.mp h with hhead | hrest
  · exact .inl hhead
  -- the run goes on only after a page that neither fails nor ends it
  by_cases hstop : (l'.parseFailedAny || caughtUp || nextCursor == "") = true
  · rw [if_pos hstop] at hrest
    exact absurd hrest List.not_mem_nil
  rw [if_neg hstop] at hrest
  by_cases hlimit : pageLimitReached svc l'.pagesFetched = true
  · rw [if_pos hlimit] at hrest
    exact absurd hrest List.not_mem_nil
  rw [if_neg hlimit] at hrest
  exact .inr ⟨Bool.not_eq_true _ ▸ hstop, Bool.not_eq_true _ ▸ hlimit, hrest⟩

/-- **A page that is committed** is held back by its blockers, or moves the checkpoint past
itself. -/
theorem readPage_blockers (hbefore : l.parseFailedAny = false)
    (h : readPage svc ses start n items nextCursor l = .ok (l', caughtUp)) :
    l'.checkpoint =
      if (⟨n, items, nextCursor, l, l'⟩ : Commit ι δ).blockers svc ses start = [] then
        (⟨n, items, nextCursor, l, l'⟩ : Commit ι δ).passed svc start
      else l.checkpoint := by
  obtain ⟨pg, hitems, -, rfl⟩ := readPage_ok h
  have hflag := ingestItems_flag hitems
  have hlast := ingestItems_last hitems
  rw [Option.or_none] at hlast
  have hfailed : (l.parseFailedAny || pg.pageParseFailed)
      = !(blockers svc ses (seen svc start l.stopTimestamp) l.now n items
        { raws := l.raws, domain := l.domain, run := l.run, first := l.first }).isEmpty := by
    rw [hbefore, hflag]
    rfl
  rw [hfailed]
  unfold Commit.blockers Commit.passed Commit.stops
  dsimp only
  rcases blockers svc ses (seen svc start l.stopTimestamp) l.now n items
      { raws := l.raws, domain := l.domain, run := l.run, first := l.first } with - | ⟨k, ks⟩
  · rw [if_neg (by simp), if_pos rfl, advancePage, hlast]
    rcases (above (seen svc start l.stopTimestamp) items).getLast? with - | item <;> rfl
  · rw [if_pos (by simp), if_neg (by simp)]

/-! ### Whole runs -/

/-- A run of the service, and what a completed backfill does with the rows. -/
structure SyncEvent (ι δ : Type) where
  mode : SyncMode
  session : Session ι δ
  reconcile : SyncRun → SyncDb ι δ → SyncRun × SyncDb ι δ := noReconcile

def syncStep (svc : Service ι) (db : SyncDb ι δ) (e : SyncEvent ι δ) : SyncDb ι δ :=
  runSync svc e.session e.reconcile e.mode db

/-- The run fetches pages. -/
def Fetches (svc : Service ι) (db : SyncDb ι δ) (e : SyncEvent ι δ) : Prop :=
  ¬(e.mode = .backfill ∧ (db.checkpoint e.mode).status = .completed) ∧ svc.maxPages ≠ some 0

instance (db : SyncDb ι δ) (e : SyncEvent ι δ) : Decidable (Fetches svc db e) :=
  inferInstanceAs (Decidable (_ ∧ _))

/-- The pages the run commits. -/
def runCommits (svc : Service ι) (db : SyncDb ι δ) (e : SyncEvent ι δ) : List (Commit ι δ) :=
  if Fetches svc db e then
    commits svc e.session (startLoop db e.mode).checkpoint e.session.calls 0 (startLoop db e.mode)
  else []

/-- The item holds back the checkpoint of the run. -/
def HeldBackBy (svc : Service ι) (k : String) (db : SyncDb ι δ) (e : SyncEvent ι δ) : Prop :=
  ∃ c ∈ runCommits svc db e, k ∈ c.blockers svc e.session (startLoop db e.mode).checkpoint

instance (db : SyncDb ι δ) (e : SyncEvent ι δ) : Decidable (HeldBackBy svc k db e) :=
  inferInstanceAs (Decidable (∃ c ∈ runCommits svc db e, _))

/-- No completed backfill deletes the row of the item. -/
def KeepsRow (svc : Service ι) (k : String) (db : SyncDb ι δ) (e : SyncEvent ι δ) : Prop :=
  Fetches svc db e →
    (syncStep svc db e).raws k = (fetchLoop svc e.session (startLoop db e.mode)).2.raws k

/-- A run that reconciles nothing keeps every row. -/
theorem keepsRow_noReconcile (svc : Service ι) (k : String) (db : SyncDb ι δ) (mode : SyncMode)
    (ses : Session ι δ) : KeepsRow svc k db { mode, session := ses } := by
  intro hfetches
  unfold syncStep runSync
  rw [if_neg hfetches.1]
  rcases fetchLoop svc ses (startLoop db mode) with ⟨e | exhausted, l⟩
  · rfl
  · dsimp only
    split
    · exact congrFun (seedIncremental_rows _ _).1 k
    · rfl

/-- The rows of the loop, after the pages it commits. -/
theorem fetchPages_spends (hfails : NeverApplies svc ses k) (hreturns : Returns svc ses k payload)
    (start : SyncCheckpoint) (calls n : Nat) (l : Loop ι δ) :
    Spends svc payload (l.raws k) ((fetchPages svc ses start calls n l).2.raws k)
      (∃ c ∈ commits svc ses start calls n l, k ∈ c.blockers svc ses start) := by
  induction calls generalizing n l with
  | zero => exact (Spends.refl svc payload _).mono fun ⟨c, hc, _⟩ => nomatch hc
  | succ calls ih =>
    rcases hfetch : ses.fetchPage n l.checkpoint with ⟨exc | ⟨items, nextCursor⟩, cp⟩
    · rw [fetchPages_error start calls hfetch]
      refine (Spends.refl svc payload _).mono fun ⟨c, hc, _⟩ => ?_
      obtain ⟨items, next, cp', l', caughtUp, hfetch', -⟩ := mem_commits hc
      rw [hfetch] at hfetch'
      cases hfetch'
    by_cases hne : items = []
    · subst hne
      rw [fetchPages_empty start calls hfetch, (finish_fields ..).1]
      refine (Spends.refl svc payload _).mono fun ⟨c, hc, _⟩ => ?_
      obtain ⟨items, next, cp', l', caughtUp, hfetch', hne, -⟩ := mem_commits hc
      rw [hfetch] at hfetch'
      cases hfetch'
      exact hne rfl
    rcases hread : readPage svc ses start n items nextCursor
        { l.beforeFetch (ses.pause n) with checkpoint := cp } with exc | ⟨l', caughtUp⟩
    · rw [fetchPages_rolledBack calls hfetch hne hread]
      refine (Spends.refl svc payload _).mono fun ⟨c, hc, _⟩ => ?_
      obtain ⟨items', next, cp', l', caughtUp, hfetch', -, hread', -⟩ := mem_commits hc
      rw [hfetch] at hfetch'
      cases hfetch'
      rw [hread] at hread'
      cases hread'
    -- a page that is committed, and what follows it
    obtain ⟨pg, hitems, -, hraws, -⟩ := readPage_fields hread
    have hpage := ingestItems_spends hfails hreturns
      (fun x hx => ⟨_, items, nextCursor, cp, hfetch, hx⟩) hitems
    rw [← hraws] at hpage
    change Spends svc payload (l.raws k) _ _ at hpage
    have hcases : ∀ c ∈ commits svc ses start (calls + 1) n l, k ∈ c.blockers svc ses start →
        k ∈ blockers svc ses (seen svc start (l.beforeFetch (ses.pause n)).stopTimestamp)
            (l.beforeFetch (ses.pause n)).now n items
            { raws := l.raws, domain := l.domain, run := l.run, first := l.first } ∨
          (l'.parseFailedAny || caughtUp || nextCursor == "") = false ∧
            pageLimitReached svc l'.pagesFetched = false ∧
            ∃ c ∈ commits svc ses start calls (n + 1) l', k ∈ c.blockers svc ses start := by
      intro c hc hk
      obtain ⟨items', next', cp', l₁, caughtUp', hfetch', -, hread', hcase⟩ := mem_commits hc
      rw [hfetch] at hfetch'
      cases hfetch'
      rw [hread] at hread'
      cases hread'
      rcases hcase with rfl | ⟨hgo, hlimit, hlater⟩
      · exact .inl hk
      · exact .inr ⟨hgo, hlimit, c, hlater, hk⟩
    rw [fetchPages_read start calls hfetch hne hread]
    by_cases hstop : (l'.parseFailedAny || caughtUp || nextCursor == "") = true
    · rw [if_pos hstop, (finish_fields ..).1]
      refine hpage.mono fun ⟨c, hc, hk⟩ => ?_
      rcases hcases c hc hk with hk | ⟨hgo, -⟩
      · exact hk
      · exact absurd (hstop.symm.trans hgo) nofun
    rw [if_neg hstop]
    by_cases hlimit : pageLimitReached svc l'.pagesFetched = true
    · rw [if_pos hlimit, (finish_fields ..).1]
      refine hpage.mono fun ⟨c, hc, hk⟩ => ?_
      rcases hcases c hc hk with hk | ⟨-, hgo, -⟩
      · exact hk
      · exact absurd (hlimit.symm.trans hgo) nofun
    rw [if_neg hlimit]
    refine (hpage.trans (ih (n + 1) l')).mono fun ⟨c, hc, hk⟩ => ?_
    rcases hcases c hc hk with hk | ⟨-, -, hlater⟩
    · exact .inl hk
    · exact .inr hlater

/-- **One run**: what it spends of the row. -/
theorem syncStep_spends {db : SyncDb ι δ} {e : SyncEvent ι δ}
    (hfails : NeverApplies svc e.session k) (hreturns : Returns svc e.session k payload)
    (hkeeps : KeepsRow svc k db e) :
    Spends svc payload (db.raws k) ((syncStep svc db e).raws k) (HeldBackBy svc k db e) := by
  unfold HeldBackBy runCommits
  by_cases hfetches : Fetches svc db e
  · rw [if_pos hfetches, hkeeps hfetches, fetchLoop, if_neg hfetches.2]
    exact fetchPages_spends hfails hreturns _ _ _ (startLoop db e.mode)
  · rw [if_neg hfetches]
    have hsame : (syncStep svc db e).raws = db.raws := by
      unfold syncStep runSync
      by_cases hdone : e.mode = .backfill ∧ (db.checkpoint e.mode).status = .completed
      · rw [if_pos hdone]
      · have hzero : svc.maxPages = some 0 := by
          by_contra hpages
          exact hfetches ⟨hdone, hpages⟩
        rw [if_neg hdone, fetchLoop, if_pos hzero]
        rfl
    rw [hsame]
    exact (Spends.refl svc payload _).mono fun ⟨c, hc, _⟩ => nomatch hc

/-- Every page a run commits is held back by its blockers, or moves the checkpoint. -/
def MovesCheckpoint (svc : Service ι) (db : SyncDb ι δ) (e : SyncEvent ι δ) : Prop :=
  ∀ c ∈ runCommits svc db e,
    c.after.checkpoint =
      if c.blockers svc e.session (startLoop db e.mode).checkpoint = [] then
        c.passed svc (startLoop db e.mode).checkpoint
      else c.before.checkpoint

theorem movesCheckpoint (svc : Service ι) (db : SyncDb ι δ) (e : SyncEvent ι δ) :
    MovesCheckpoint svc db e := by
  have hloop : ∀ calls n (l : Loop ι δ), l.parseFailedAny = false →
      ∀ c ∈ commits svc e.session (startLoop db e.mode).checkpoint calls n l,
        c.after.checkpoint =
          if c.blockers svc e.session (startLoop db e.mode).checkpoint = [] then
            c.passed svc (startLoop db e.mode).checkpoint
          else c.before.checkpoint := by
    intro calls
    induction calls with
    | zero => exact fun _ _ _ c hc => nomatch hc
    | succ calls ih =>
      intro n l hbefore c hc
      obtain ⟨items, nextCursor, cp, l', caughtUp, -, -, hread, hcase⟩ := mem_commits hc
      rcases hcase with rfl | ⟨hgo, -, hlater⟩
      · exact readPage_blockers
          (l := { l.beforeFetch (e.session.pause n) with checkpoint := cp }) hbefore hread
      · simp only [Bool.or_eq_false_iff] at hgo
        exact ih (n + 1) l' hgo.1.1 c hlater
  intro c hc
  unfold runCommits at hc
  split at hc
  · exact hloop _ _ _ rfl c hc
  · cases hc

/-- **Bounded blocking.**  While the provider returns one content for an item that never applies,
and no completed backfill deletes its row, the item holds back fewer runs than it has attempts; and
every page that nothing holds back moves the checkpoint past itself. -/
theorem bounded_blocking (svc : Service ι) (k : String) (content : ι) (db : SyncDb ι δ)
    (es : List (SyncEvent ι δ))
    (h : Along (syncStep svc) (fun db e => NeverApplies svc e.session k ∧
      Returns svc e.session k content ∧ KeepsRow svc k db e) db es) :
    countSteps (syncStep svc) (HeldBackBy svc k) db es ≤ svc.maxParseRetryAttempts - 1 ∧
      Along (syncStep svc) (MovesCheckpoint svc) db es := by
  constructor
  · have hbound : countSteps (syncStep svc) (HeldBackBy svc k) db es
        ≤ svc.maxParseRetryAttempts - 1 - attemptsOn content (db.raws k) :=
      countSteps_le (fun db e hc => (syncStep_spends hc.1 hc.2.1 hc.2.2).1)
      (fun db e hc hheld => by
        obtain ⟨hleft, hmore⟩ := (syncStep_spends hc.1 hc.2.1 hc.2.2).2 hheld
        exact ⟨by omega, hmore⟩) h
    exact hbound.trans (Nat.sub_le _ _)
  · exact along_of_forall (fun db e => movesCheckpoint svc db e) db es

end Quarantine

/-! ### Content that changes -/

/-- The service of the counterexample: an order is its id and what it says. -/
def noteSync : Service (String × Nat) where
  extractRemoteId := Prod.fst

/-- A run that finds the order saying `i`, and cannot apply it. -/
def noteRun (i : Nat) : SyncEvent (String × Nat) Unit where
  mode := .incremental
  session := {
    fetchPage := fun _ cp => (.ok ([("1", i)], ""), cp)
    parseAndApply := fun _ _ d => (.error "bad data", d)
    calls := 1 }

def noteDb : SyncDb (String × Nat) Unit where
  now := 100
  domain := ()

/-- The order says the same on every fetch: four runs are held back, the fifth is not. -/
theorem bounded_blocking_same :
    countSteps (syncStep noteSync) (HeldBackBy noteSync "1") noteDb
        (List.replicate 5 (noteRun 7)) ≤ 4 ∧
      Along (syncStep noteSync) (MovesCheckpoint noteSync) noteDb (List.replicate 5 (noteRun 7)) := by
  refine bounded_blocking noteSync "1" ("1", 7) noteDb (List.replicate 5 (noteRun 7)) ?_
  have hrun : ∀ db, NeverApplies noteSync (noteRun 7).session "1" ∧
      Returns noteSync (noteRun 7).session "1" ("1", 7) ∧ KeepsRow noteSync "1" db (noteRun 7) := by
    intro db
    refine ⟨fun n item payload domain _ _ _ => rfl, ?_, keepsRow_noReconcile noteSync "1" db _ _⟩
    rintro n item payload ⟨cp, items, nextCursor, cp', hfetch, hitem⟩ - hprepare
    cases hfetch
    cases hprepare
    exact List.mem_singleton.mp hitem
  exact ⟨hrun _, hrun _, hrun _, hrun _, hrun _, trivial⟩

/-- What the order says differs on every fetch, so every run starts its count over: all five runs
are held back. -/
theorem bounded_blocking_fails :
    ¬∀ (k : String) (db : SyncDb (String × Nat) Unit) (es : List (SyncEvent (String × Nat) Unit)),
      (∀ e ∈ es, NeverApplies noteSync e.session k) →
        countSteps (syncStep noteSync) (HeldBackBy noteSync k) db es
          ≤ noteSync.maxParseRetryAttempts - 1 := by
  intro h
  have hfive := h "1" noteDb ((List.range 5).map noteRun) ?_
  · revert hfive
    decide
  · intro e he n item payload domain _ _ _
    obtain ⟨i, -, rfl⟩ := List.mem_map.mp he
    rfl

end Sda.Sync
