/-
Sda/Sync/Pages.lean

What pages leave in the raw payloads.

`Stores t items` says of the payloads before and after that exactly those of
`items` were written, at `t` or later.  It composes along a run, so a page, the
pages after it and the run each have one lemma:

* `ingestItems_flow`, `ingestItems_stores`, `ingestItems_clean` — one page;
* `fetchPages_stores` — the rest of an incremental run, over a feed served in
  pages (`Serves`);
* `runSync_stores` — an incremental run that completes without error ingests
  what is above its stop (`scan`), and nothing else.
-/
import Sda.Lib.Feed
import Sda.Sync.FetchLoop

namespace Sda.Sync

/-- The raw payload of the id was written at `t` or later. -/
def SeenSince {ι : Type} (t : Nat) (raws : String → Option (RawPayload ι)) (id : String) : Prop :=
  ∃ raw, raws id = some raw ∧ t ≤ raw.lastSeenAt

/-- The id an item is stored under. -/
def remoteKey {ι : Type} (svc : Service ι) (item : ι) : String :=
  stripText (svc.extractRemoteId item)

/-- The raw payloads of the items were written at `t` or later, no others. -/
structure Stores {ι : Type} (svc : Service ι) (t : Nat) (items : List ι)
    (raws raws' : String → Option (RawPayload ι)) : Prop where
  other : ∀ id, (∀ x ∈ items, remoteKey svc x ≠ id) → raws' id = raws id
  stored : ∀ x ∈ items, SeenSince t raws' (remoteKey svc x)
  keeps : ∀ id, SeenSince t raws id → SeenSince t raws' id

namespace Stores

variable {ι : Type} {svc : Service ι} {t : Nat} {items items' : List ι}
variable {raws raws' raws'' : String → Option (RawPayload ι)}

theorem refl (svc : Service ι) (t : Nat) (raws : String → Option (RawPayload ι)) :
    Stores svc t [] raws raws :=
  ⟨fun _ _ => rfl, fun _ h => absurd h List.not_mem_nil, fun _ h => h⟩

theorem append (h : Stores svc t items raws raws') (h' : Stores svc t items' raws' raws'') :
    Stores svc t (items ++ items') raws raws'' where
  other id hid := by
    rw [h'.other id fun x hx => hid x (List.mem_append_right _ hx)]
    exact h.other id fun x hx => hid x (List.mem_append_left _ hx)
  stored x hx := by
    rcases List.mem_append.mp hx with hx | hx
    · exact h'.keeps _ (h.stored x hx)
    · exact h'.stored x hx
  keeps id hid := h'.keeps id (h.keeps id hid)

/-- One row is written. -/
theorem update {item : ι} {raw : RawPayload ι} (h : t ≤ raw.lastSeenAt) :
    Stores svc t [item] raws (Function.update raws (remoteKey svc item) (some raw)) where
  other id hid := Function.update_of_ne (hid item List.mem_cons_self).symm ..
  stored x hx := by
    rw [List.mem_singleton] at hx
    subst hx
    exact ⟨raw, Function.update_self .., h⟩
  keeps id hid := by
    obtain ⟨raw', hraw', ht⟩ := hid
    by_cases heq : id = remoteKey svc item
    · subst heq
      exact ⟨raw, Function.update_self .., h⟩
    · exact ⟨raw', (Function.update_of_ne heq ..).trans hraw', ht⟩

/-- Of payloads that are all older, only those of the items are then seen. -/
theorem seenSince_iff (h : Stores svc t items raws raws')
    (hold : ∀ id raw, raws id = some raw → raw.lastSeenAt < t) (id : String) :
    SeenSince t raws' id ↔ ∃ x ∈ items, remoteKey svc x = id := by
  constructor
  · rintro ⟨raw, hraw, ht⟩
    by_contra hnone
    rw [h.other id fun x hx heq => hnone ⟨x, hx, heq⟩] at hraw
    exact absurd ht (Nat.not_le.mpr (hold id raw hraw))
  · rintro ⟨x, hx, rfl⟩
    exact h.stored x hx

end Stores

/-! ### One page -/

section Page

variable {ι δ : Type} [DecidableEq ι]
variable {svc : Service ι} {ses : Session ι δ} {isSeen : ι → Bool} {now n t : Nat}
variable {item : ι} {items : List ι} {pg pg' : Page ι δ}

theorem ingestRaw_lastSeenAt (now : Nat) (item : ι) (old : Option (RawPayload ι)) :
    (ingestRaw now item old).lastSeenAt = now := by
  rcases old with - | raw
  · rfl
  · by_cases hchange : raw.payload ≠ item ∨ raw.parseStatus = .failed
    · rw [ingestRaw, if_pos hchange]
    · rw [ingestRaw, if_neg hchange]

omit [DecidableEq ι] in
theorem settle_lastSeenAt (raw : RawPayload ι) (now : Nat) (result : Except String ParseResult) :
    (raw.settle now result).lastSeenAt = raw.lastSeenAt := by
  cases result <;> rfl

omit [DecidableEq ι] in
theorem tryParse_lastSeenAt (parse : ι → δ → Except String ParseResult × δ) (now : Nat)
    (raw : RawPayload ι) (domain : δ) (run : SyncRun) :
    (tryParse parse now raw domain run).1.lastSeenAt = raw.lastSeenAt := by
  unfold tryParse
  split
  · rfl
  · exact settle_lastSeenAt ..

theorem applyItem_stores (svc : Service ι) (ses : Session ι δ) (n : Nat) (item payload : ι)
    (pg : Page ι δ) (ht : t ≤ now) :
    Stores svc t [item] pg.raws
      (applyItem svc ses now n (remoteKey svc item) payload pg).raws := by
  have hraw : t ≤ (ingestRaw now payload (pg.raws (remoteKey svc item))).lastSeenAt := by
    rw [ingestRaw_lastSeenAt]
    exact ht
  unfold applyItem
  dsimp only
  -- the parse keeps the time of the row
  split
  · dsimp only
    exact Stores.update hraw
  · dsimp only
    exact Stores.update (by rw [tryParse_lastSeenAt]; exact hraw)

/-- The counters only grow, and not at all when the payload applied. -/
theorem applyItem_errorCount (svc : Service ι) (ses : Session ι δ) (now n : Nat)
    (remoteId : String) (payload : ι) (pg : Page ι δ) :
    pg.run.errorCount ≤ (applyItem svc ses now n remoteId payload pg).run.errorCount ∧
      ((applyItem svc ses now n remoteId payload pg).run.errorCount = pg.run.errorCount →
        (applyItem svc ses now n remoteId payload pg).pageParseFailed = pg.pageParseFailed) := by
  have hnote : ∀ (run : SyncRun) id, (run.noteQuarantined id).errorCount = run.errorCount := by
    intro run id
    unfold SyncRun.noteQuarantined
    split <;> rfl
  unfold applyItem
  dsimp only
  split
  · exact ⟨Nat.le_refl _, fun _ => rfl⟩
  · unfold tryParse
    split
    · exact ⟨Nat.le_refl _, fun _ => Bool.or_false _⟩
    · rcases (ses.parseAndApply n
        (ingestRaw now payload (pg.raws remoteId)).payload pg.domain) with ⟨message | result, d⟩
      · have hcount : ∀ b : Bool, (if b then pg.run.countResult (.error message)
            else (pg.run.countResult (.error message)).noteQuarantined remoteId).errorCount
              = pg.run.errorCount + 1 := by
          rintro (_ | _)
          · exact hnote ..
          · rfl
        refine ⟨(Nat.le_succ _).trans (hcount _).ge, fun heq => ?_⟩
        exact absurd ((hcount _).symm.trans heq) (Nat.succ_ne_self _)
      · refine ⟨?_, fun _ => Bool.or_false _⟩
        cases result <;> exact Nat.le_refl _

/-- The first item of the run becomes the newest one. -/
def Page.noteFirst (svc : Service ι) (pg : Page ι δ) (item : ι) : Page ι δ :=
  { pg with first := pg.first.or (some (remoteKey svc item, svc.extractRemoteTimestamp item)) }

/-- **What the body of the loop can do with an item.** -/
theorem ingestItem_cases (h : ingestItem svc ses now n pg item = .ok pg') :
    remoteKey svc item ≠ "" ∧
      ∃ pg₁ : Page ι δ, ∃ errors : Nat,
        pg' = pg₁.done (remoteKey svc item) (svc.extractRemoteTimestamp item) errors ∧
          ((svc.shouldSkipItem item = true ∧ errors = 0 ∧
              pg₁ = Page.noteFirst svc pg item) ∨
            (svc.shouldSkipItem item = false ∧ ses.prepareItem n item = .skipItem ∧ errors = 1 ∧
              pg₁ = Page.noteFirst svc pg item) ∨
            (svc.shouldSkipItem item = false ∧ errors = 0 ∧
              ∃ payload, ses.prepareItem n item = .item payload ∧
                pg₁ = applyItem svc ses now n (remoteKey svc item) payload
                  (Page.noteFirst svc pg item))) := by
  unfold ingestItem validatedRemoteId at h
  by_cases hid : stripText (svc.extractRemoteId item) = ""
  · rw [if_pos hid] at h
    cases h
  rw [if_neg hid] at h
  dsimp only at h
  refine ⟨hid, ?_⟩
  by_cases hskip : svc.shouldSkipItem item = true
  · rw [if_pos hskip] at h
    cases h
    exact ⟨_, 0, rfl, .inl ⟨hskip, rfl, rfl⟩⟩
  rw [if_neg hskip] at h
  have hskip' := Bool.not_eq_true _ ▸ hskip
  rcases hprepare : ses.prepareItem n item with payload | - | message | exc <;>
    rw [hprepare] at h <;> cases h
  · exact ⟨_, 0, rfl, .inr (.inr ⟨hskip', rfl, payload, rfl, rfl⟩)⟩
  · exact ⟨_, 1, rfl, .inr (.inl ⟨hskip', rfl, rfl, rfl⟩)⟩

/-- What the record of a run says from its start on. -/
def SyncRun.header (run : SyncRun) : SyncRunStatus × Nat :=
  (run.status, run.createdAt)

theorem noteQuarantined_header (run : SyncRun) (remoteId : String) :
    (run.noteQuarantined remoteId).header = run.header := by
  unfold SyncRun.noteQuarantined
  split <;> rfl

/-- No payload ends the run or moves its start. -/
theorem applyItem_header (svc : Service ι) (ses : Session ι δ) (now n : Nat) (remoteId : String)
    (payload : ι) (pg : Page ι δ) :
    (applyItem svc ses now n remoteId payload pg).run.header = pg.run.header := by
  have hcount : ∀ (run : SyncRun) result, (run.countResult result).header = run.header := by
    rintro run (message | result)
    · rfl
    · cases result <;> rfl
  unfold applyItem tryParse
  dsimp only
  split
  · rfl
  · split
    · rfl
    · dsimp only
      split
      · exact hcount ..
      · rw [noteQuarantined_header]
        exact hcount ..

theorem applyItem_keeps (svc : Service ι) (ses : Session ι δ) (now n : Nat) (remoteId : String)
    (payload : ι) (pg : Page ι δ) :
    (applyItem svc ses now n remoteId payload pg).caughtUp = pg.caughtUp ∧
      (applyItem svc ses now n remoteId payload pg).first = pg.first := by
  unfold applyItem
  dsimp only
  split <;> exact ⟨rfl, rfl⟩

/-- The variables of the loop that no payload touches. -/
theorem ingestItem_flow (h : ingestItem svc ses now n pg item = .ok pg') :
    pg'.caughtUp = pg.caughtUp ∧
      pg'.first = pg.first.or (some (remoteKey svc item, svc.extractRemoteTimestamp item)) ∧
      pg'.last = some (remoteKey svc item, svc.extractRemoteTimestamp item) ∧
      pg.run.errorCount ≤ pg'.run.errorCount := by
  obtain ⟨-, pg₁, errors, rfl, hcases⟩ := ingestItem_cases h
  rcases hcases with ⟨-, -, rfl⟩ | ⟨-, -, -, rfl⟩ | ⟨-, -, payload, -, rfl⟩
  · exact ⟨rfl, rfl, rfl, Nat.le_add_right ..⟩
  · exact ⟨rfl, rfl, rfl, Nat.le_add_right ..⟩
  · obtain ⟨hcaught, hfirst⟩ := applyItem_keeps svc ses now n (remoteKey svc item) payload
      (Page.noteFirst svc pg item)
    refine ⟨hcaught, hfirst, rfl, ?_⟩
    exact (applyItem_errorCount svc ses now n (remoteKey svc item) payload
      (Page.noteFirst svc pg item)).1.trans
      (Nat.le_add_right ..)

theorem ingestItem_header (h : ingestItem svc ses now n pg item = .ok pg') :
    pg'.run.header = pg.run.header := by
  obtain ⟨-, pg₁, errors, rfl, hcases⟩ := ingestItem_cases h
  rcases hcases with ⟨-, -, rfl⟩ | ⟨-, -, -, rfl⟩ | ⟨-, -, payload, -, rfl⟩
  · rfl
  · rfl
  · exact applyItem_header ..

/-- The items of a page that are stored. -/
def kept (svc : Service ι) (items : List ι) : List ι :=
  items.filter fun x => !svc.shouldSkipItem x

omit [DecidableEq ι] in
theorem kept_append (svc : Service ι) (items items' : List ι) :
    kept svc (items ++ items') = kept svc items ++ kept svc items' :=
  List.filter_append ..

omit [DecidableEq ι] in
theorem kept_eq_self (h : ∀ x, svc.shouldSkipItem x = false) (items : List ι) :
    kept svc items = items :=
  List.filter_eq_self.mpr fun x _ => by rw [h x]; rfl

theorem ingestItem_stores (h : ingestItem svc ses now n pg item = .ok pg') (ht : t ≤ now)
    (hprepare : ses.prepareItem n item ≠ .skipItem) :
    Stores svc t (kept svc [item]) pg.raws pg'.raws := by
  obtain ⟨-, pg₁, errors, rfl, hcases⟩ := ingestItem_cases h
  rcases hcases with ⟨hskip, -, rfl⟩ | ⟨-, hskipItem, -, -⟩ | ⟨hskip, -, payload, -, rfl⟩
  · rw [kept, List.filter_cons_of_neg (by rw [hskip]; exact Bool.false_ne_true)]
    exact Stores.refl ..
  · exact absurd hskipItem hprepare
  · rw [kept, List.filter_cons_of_pos (by rw [hskip]; rfl)]
    exact applyItem_stores svc ses n item payload
      (Page.noteFirst svc pg item) ht

/-- An item that raises no counter was neither skipped by `prepare_item` nor
failed. -/
theorem ingestItem_clean (h : ingestItem svc ses now n pg item = .ok pg')
    (herror : pg'.run.errorCount = pg.run.errorCount) :
    (svc.shouldSkipItem item = false → ses.prepareItem n item ≠ .skipItem) ∧
      pg'.pageParseFailed = pg.pageParseFailed := by
  obtain ⟨-, pg₁, errors, rfl, hcases⟩ := ingestItem_cases h
  rcases hcases with ⟨hskip, -, rfl⟩ | ⟨-, -, rfl, rfl⟩ | ⟨-, rfl, payload, hprepare, rfl⟩
  · exact ⟨fun hskip' => absurd (hskip.symm.trans hskip') nofun, rfl⟩
  · exact absurd herror (Nat.succ_ne_self _)
  · refine ⟨fun _ => by rw [hprepare]; exact nofun, ?_⟩
    exact (applyItem_errorCount svc ses now n (remoteKey svc item) payload
      (Page.noteFirst svc pg item)).2 herror

/-- One step of the loop over a page. -/
theorem ingestItems_cons_ok (hseen : isSeen item = false)
    (h : ingestItems svc ses isSeen now n (item :: items) pg = .ok pg') :
    ∃ pg₁, ingestItem svc ses now n pg item = .ok pg₁ ∧
      ingestItems svc ses isSeen now n items pg₁ = .ok pg' := by
  rw [ingestItems, if_neg (by rw [hseen]; exact Bool.false_ne_true)] at h
  rcases hitem : ingestItem svc ses now n pg item with e | pg₁
  · rw [hitem] at h
    cases h
  · rw [hitem] at h
    exact ⟨pg₁, rfl, h⟩

theorem ingestItems_cons_seen (hseen : isSeen item = true) :
    ingestItems svc ses isSeen now n (item :: items) pg = .ok { pg with caughtUp := true } := by
  rw [ingestItems, if_pos hseen]

/-- **The loop over a page**: when it catches up, and the newest item. -/
theorem ingestItems_flow (h : ingestItems svc ses isSeen now n items pg = .ok pg') :
    pg'.caughtUp = (pg.caughtUp || items.any isSeen) ∧
      pg'.first = pg.first.or ((above isSeen items).head?.map fun x =>
        (remoteKey svc x, svc.extractRemoteTimestamp x)) ∧
      (pg'.last = none → pg.last = none ∧ above isSeen items = []) ∧
      (pg.last = none → above isSeen items = [] → pg'.last = none) ∧
      pg.run.errorCount ≤ pg'.run.errorCount := by
  induction items generalizing pg with
  | nil =>
    cases h
    simp
  | cons item items ih =>
    by_cases hseen : isSeen item = true
    · rw [ingestItems_cons_seen hseen] at h
      cases h
      rw [above_cons_of_stop hseen, List.any_cons, hseen]
      simp
    · have hseen' := Bool.not_eq_true _ ▸ hseen
      obtain ⟨pg₁, hitem, hrest⟩ := ingestItems_cons_ok hseen' h
      obtain ⟨hcaught, hfirst, hlast, hcount⟩ := ingestItem_flow hitem
      obtain ⟨hcaught', hfirst', hlast', -, hcount'⟩ := ih hrest
      rw [above_cons hseen', List.any_cons, hseen', Bool.false_or]
      refine ⟨by rw [hcaught', hcaught], ?_, fun hnone => ?_, fun _ hnil => ?_,
        hcount.trans hcount'⟩
      · rw [hfirst', hfirst, List.head?_cons]
        rcases pg.first with - | first <;> rfl
      · rw [hlast] at hlast'
        exact absurd (hlast' hnone).1 nofun
      · cases hnil

theorem ingestItems_header (h : ingestItems svc ses isSeen now n items pg = .ok pg') :
    pg'.run.header = pg.run.header := by
  induction items generalizing pg with
  | nil =>
    cases h
    rfl
  | cons item items ih =>
    by_cases hseen : isSeen item = true
    · rw [ingestItems_cons_seen hseen] at h
      cases h
      rfl
    · obtain ⟨pg₁, hitem, hrest⟩ := ingestItems_cons_ok (Bool.not_eq_true _ ▸ hseen) h
      exact (ih hrest).trans (ingestItem_header hitem)

/-- **What a page stores**: the items above the stop. -/
theorem ingestItems_stores (h : ingestItems svc ses isSeen now n items pg = .ok pg')
    (ht : t ≤ now) (hprepare : ∀ x ∈ above isSeen items, svc.shouldSkipItem x = false →
      ses.prepareItem n x ≠ .skipItem) :
    Stores svc t (kept svc (above isSeen items)) pg.raws pg'.raws := by
  induction items generalizing pg with
  | nil =>
    cases h
    exact Stores.refl ..
  | cons item items ih =>
    by_cases hseen : isSeen item = true
    · rw [ingestItems_cons_seen hseen] at h
      cases h
      rw [above_cons_of_stop hseen]
      exact Stores.refl ..
    · have hseen' := Bool.not_eq_true _ ▸ hseen
      obtain ⟨pg₁, hitem, hrest⟩ := ingestItems_cons_ok hseen' h
      rw [above_cons hseen'] at hprepare ⊢
      have htail := ih hrest fun x hx => hprepare x (List.mem_cons_of_mem _ hx)
      have hhead : Stores svc t (kept svc [item]) pg.raws pg₁.raws := by
        by_cases hskip : svc.shouldSkipItem item = true
        · obtain ⟨-, pg₂, errors, rfl, hcases⟩ := ingestItem_cases hitem
          rcases hcases with ⟨-, -, rfl⟩ | ⟨hskip', -, -, -⟩ | ⟨hskip', -, -⟩
          · rw [kept, List.filter_cons_of_neg (by rw [hskip]; exact Bool.false_ne_true)]
            exact Stores.refl ..
          · exact absurd (hskip.symm.trans hskip') nofun
          · exact absurd (hskip.symm.trans hskip') nofun
        · exact ingestItem_stores hitem ht
            (hprepare item List.mem_cons_self (Bool.not_eq_true _ ▸ hskip))
      have hsplit := hhead.append htail
      rw [← kept_append, List.singleton_append] at hsplit
      exact hsplit

/-- A page that raises no counter has no item skipped by `prepare_item` and no
failed payload. -/
theorem ingestItems_clean (h : ingestItems svc ses isSeen now n items pg = .ok pg')
    (herror : pg'.run.errorCount = pg.run.errorCount) :
    (∀ x ∈ above isSeen items, svc.shouldSkipItem x = false →
        ses.prepareItem n x ≠ .skipItem) ∧
      pg'.pageParseFailed = pg.pageParseFailed := by
  induction items generalizing pg with
  | nil =>
    cases h
    exact ⟨fun x hx => absurd hx List.not_mem_nil, rfl⟩
  | cons item items ih =>
    by_cases hseen : isSeen item = true
    · rw [ingestItems_cons_seen hseen] at h
      cases h
      rw [above_cons_of_stop hseen]
      exact ⟨fun x hx => absurd hx List.not_mem_nil, rfl⟩
    · have hseen' := Bool.not_eq_true _ ▸ hseen
      obtain ⟨pg₁, hitem, hrest⟩ := ingestItems_cons_ok hseen' h
      obtain ⟨-, -, -, hcount⟩ := ingestItem_flow hitem
      obtain ⟨-, -, -, -, hcount'⟩ := ingestItems_flow hrest
      obtain ⟨hprepare, hfailed⟩ := ingestItem_clean hitem (by omega)
      obtain ⟨hprepare', hfailed'⟩ := ih hrest (by omega)
      rw [above_cons hseen']
      refine ⟨fun x hx => ?_, hfailed'.trans hfailed⟩
      rcases List.mem_cons.mp hx with rfl | hx
      · exact hprepare
      · exact hprepare' x hx

end Page

/-! ### The pages of an incremental run -/

section Loop

variable {ι δ : Type} [DecidableEq ι]
variable {svc : Service ι} {ses : Session ι δ} {start : SyncCheckpoint} {calls n t : Nat}
variable {items : List ι} {nextCursor : String} {l l' : Loop ι δ} {caughtUp : Bool}

omit [DecidableEq ι] in
/-- A backfill stops at no item. -/
theorem seen_backfill (h : start.mode = .backfill) (stop : Option Nat) :
    seen svc start stop = fun _ => false := by
  funext x
  rw [seen, h]
  rfl

omit [DecidableEq ι] in
theorem finish_fields (l : Loop ι δ) (nextCursor : String) :
    (l.finish nextCursor).2.raws = l.raws ∧ (l.finish nextCursor).2.run = l.run := by
  unfold Loop.finish
  split <;> exact ⟨rfl, rfl⟩

omit [DecidableEq ι] in
theorem finish_bookmark (l : Loop ι δ) (nextCursor : String) :
    (l.finish nextCursor).2.checkpoint.lastSeenRemoteId = l.checkpoint.lastSeenRemoteId ∧
      (l.finish nextCursor).2.checkpoint.mode = l.checkpoint.mode := by
  unfold Loop.finish
  split <;> exact ⟨rfl, rfl⟩

omit [DecidableEq ι] in
/-- A backfill keeps its cursor. -/
theorem finish_backfill (h : l.checkpoint.mode = .backfill) (nextCursor : String) :
    l.finish nextCursor = (.ok (l.fetchedAny && nextCursor == ""), l) := by
  unfold Loop.finish
  rw [h]
  rfl

/-- A page that is committed. -/
theorem readPage_ok (h : readPage svc ses start n items nextCursor l = .ok (l', caughtUp)) :
    ∃ pg : Page ι δ,
      ingestItems svc ses (seen svc start l.stopTimestamp) l.now n items
          { raws := l.raws, domain := l.domain, run := l.run, first := l.first } = .ok pg ∧
        caughtUp = pg.caughtUp ∧
        l' = { l with
          raws := pg.raws
          domain := pg.domain
          run := { pg.run with
            blockedOnParseFailure := pg.run.blockedOnParseFailure || pg.pageParseFailed }
          first := pg.first
          fetchedAny := true
          parseFailedAny := l.parseFailedAny || pg.pageParseFailed
          pagesFetched := l.pagesFetched + 1
          checkpoint := if l.parseFailedAny || pg.pageParseFailed then l.checkpoint
            else advancePage l.checkpoint pg nextCursor l.now } := by
  unfold readPage at h
  rcases hitems : ingestItems svc ses (seen svc start l.stopTimestamp) l.now n items
      { raws := l.raws, domain := l.domain, run := l.run, first := l.first } with e | pg
  · rw [hitems] at h
    cases h
  · rw [hitems] at h
    cases h
    exact ⟨pg, rfl, rfl, rfl⟩

variable (nextCursor) in
theorem readPage_of_ok {pg : Page ι δ}
    (h : ingestItems svc ses (seen svc start l.stopTimestamp) l.now n items
      { raws := l.raws, domain := l.domain, run := l.run, first := l.first } = .ok pg) :
    ∃ l' caughtUp, readPage svc ses start n items nextCursor l = .ok (l', caughtUp) := by
  unfold readPage
  rw [h]
  exact ⟨_, _, rfl⟩

/-- The fields of the loop after a page that is committed. -/
theorem readPage_fields (h : readPage svc ses start n items nextCursor l = .ok (l', caughtUp)) :
    ∃ pg : Page ι δ,
      ingestItems svc ses (seen svc start l.stopTimestamp) l.now n items
          { raws := l.raws, domain := l.domain, run := l.run, first := l.first } = .ok pg ∧
        caughtUp = pg.caughtUp ∧ l'.raws = pg.raws ∧
        l'.parseFailedAny = (l.parseFailedAny || pg.pageParseFailed) ∧
        l'.pagesFetched = l.pagesFetched + 1 ∧
        l'.checkpoint = if l.parseFailedAny || pg.pageParseFailed then l.checkpoint
          else advancePage l.checkpoint pg nextCursor l.now := by
  obtain ⟨pg, hitems, rfl, rfl⟩ := readPage_ok h
  exact ⟨pg, hitems, rfl, rfl, rfl, rfl, rfl⟩

theorem readPage_fetched (h : readPage svc ses start n items nextCursor l = .ok (l', caughtUp)) :
    l'.fetchedAny = true ∧ l'.now = l.now := by
  obtain ⟨pg, -, rfl, rfl⟩ := readPage_ok h
  exact ⟨rfl, rfl⟩

omit [DecidableEq ι] in
theorem advancePage_keys (checkpoint : SyncCheckpoint) (pg : Page ι δ) (nextCursor : String)
    (now : Nat) :
    (advancePage checkpoint pg nextCursor now).mode = checkpoint.mode ∧
      (advancePage checkpoint pg nextCursor now).incrementalPage = checkpoint.incrementalPage ∧
      (advancePage checkpoint pg nextCursor now).currentStatus = checkpoint.currentStatus := by
  unfold advancePage
  rcases pg.last with - | last <;> exact ⟨rfl, rfl, rfl⟩

omit [DecidableEq ι] in
theorem advancePage_status (checkpoint : SyncCheckpoint) (pg : Page ι δ) (nextCursor : String)
    (now : Nat) : (advancePage checkpoint pg nextCursor now).status = checkpoint.status := by
  unfold advancePage
  rcases pg.last with - | last <;> rfl

omit [DecidableEq ι] in
theorem advancePage_cursor {pg : Page ι δ} (h : pg.last ≠ none) (checkpoint : SyncCheckpoint)
    (nextCursor : String) (now : Nat) :
    (advancePage checkpoint pg nextCursor now).cursor = nextCursor := by
  obtain ⟨last, hlast⟩ := Option.ne_none_iff_exists'.mp h
  rw [advancePage, hlast]
  rfl

/-- **A page that raises no counter**: what it stores and where it leaves the
loop. -/
theorem readPage_clean (h : readPage svc ses start n items nextCursor l = .ok (l', caughtUp))
    (ht : t ≤ l.now) (hfail : l.parseFailedAny = false)
    (herror : l'.run.errorCount = l.run.errorCount) :
    Stores svc t (kept svc (above (seen svc start l.stopTimestamp) items)) l.raws l'.raws ∧
      caughtUp = items.any (seen svc start l.stopTimestamp) ∧
      l'.parseFailedAny = false ∧ l'.now = l.now ∧ l'.stopTimestamp = l.stopTimestamp ∧
      l'.first = l.first.or ((above (seen svc start l.stopTimestamp) items).head?.map fun x =>
        (remoteKey svc x, svc.extractRemoteTimestamp x)) ∧
      ∃ pg : Page ι δ, l'.checkpoint = advancePage l.checkpoint pg nextCursor l.now ∧
        pg.first = l'.first ∧
        (pg.last = none → above (seen svc start l.stopTimestamp) items = []) := by
  obtain ⟨pg, hitems, rfl, rfl⟩ := readPage_ok h
  obtain ⟨hprepare, hfailed⟩ := ingestItems_clean hitems herror
  obtain ⟨hcaught, hfirst, hlast, -, -⟩ := ingestItems_flow hitems
  have hnone : (l.parseFailedAny || pg.pageParseFailed) = false := by
    rw [hfail, hfailed]
    rfl
  refine ⟨ingestItems_stores hitems ht hprepare, hcaught, hnone, rfl, rfl, hfirst, pg, ?_, rfl,
    fun hlast' => (hlast hlast').2⟩
  exact if_neg (by rw [hnone]; exact Bool.false_ne_true)

theorem readPage_errorCount_le
    (h : readPage svc ses start n items nextCursor l = .ok (l', caughtUp)) :
    l.run.errorCount ≤ l'.run.errorCount := by
  obtain ⟨pg, hitems, rfl, rfl⟩ := readPage_ok h
  exact (ingestItems_flow hitems).2.2.2.2

/-- A call that fails ends the run. -/
theorem fetchPages_error {exc : PyError} {cp : SyncCheckpoint} (start : SyncCheckpoint)
    (calls : Nat) (h : ses.fetchPage n l.checkpoint = (.error exc, cp)) :
    fetchPages svc ses start (calls + 1) n l
      = (.error (.raised exc), { l.beforeFetch (ses.pause n) with checkpoint := cp }) := by
  rw [fetchPages_succ]
  rw [show ses.fetchPage n (l.beforeFetch (ses.pause n)).checkpoint = _ from h]

/-- A call that returns nothing ends the run. -/
theorem fetchPages_empty {cp : SyncCheckpoint} (start : SyncCheckpoint) (calls : Nat)
    (h : ses.fetchPage n l.checkpoint = (.ok ([], nextCursor), cp)) :
    fetchPages svc ses start (calls + 1) n l
      = { l.beforeFetch (ses.pause n) with checkpoint := cp }.finish nextCursor := by
  rw [fetchPages_succ]
  rw [show ses.fetchPage n (l.beforeFetch (ses.pause n)).checkpoint = _ from h]
  rfl

/-- A call that returns a page which is rolled back. -/
theorem fetchPages_rolledBack {e : RunError} {cp : SyncCheckpoint} (calls : Nat)
    (h : ses.fetchPage n l.checkpoint = (.ok (items, nextCursor), cp)) (hne : items ≠ [])
    (hpage : readPage svc ses start n items nextCursor
      { l.beforeFetch (ses.pause n) with checkpoint := cp } = .error e) :
    fetchPages svc ses start (calls + 1) n l
      = (.error e, { l.beforeFetch (ses.pause n) with checkpoint := cp }) := by
  rw [fetchPages_succ]
  rw [show ses.fetchPage n (l.beforeFetch (ses.pause n)).checkpoint = _ from h]
  dsimp only
  rw [if_neg (by simpa using hne), hpage]

variable (start) in
/-- A call that returns a page which is committed. -/
theorem fetchPages_read {cp : SyncCheckpoint} (calls : Nat)
    (h : ses.fetchPage n l.checkpoint = (.ok (items, nextCursor), cp)) (hne : items ≠ [])
    (hpage : readPage svc ses start n items nextCursor
      { l.beforeFetch (ses.pause n) with checkpoint := cp } = .ok (l', caughtUp)) :
    fetchPages svc ses start (calls + 1) n l
      = if l'.parseFailedAny || caughtUp || nextCursor == "" then l'.finish nextCursor
        else if pageLimitReached svc l'.pagesFetched then
          { l' with run := { l'.run with pageLimitReached := svc.maxPages } }.finish nextCursor
        else fetchPages svc ses start calls (n + 1) l' := by
  rw [fetchPages_succ]
  rw [show ses.fetchPage n (l.beforeFetch (ses.pause n)).checkpoint = _ from h]
  dsimp only
  rw [if_neg (by simpa using hne), hpage]

variable (svc ses) in
/-- **Any run** writes the rows of some items, and no others. -/
theorem fetchPages_someStores (hprepare : ∀ n x, ses.prepareItem n x ≠ .skipItem)
    (start : SyncCheckpoint) (calls n : Nat) (l : Loop ι δ) (ht : t ≤ l.now) :
    ∃ items, Stores svc t items l.raws (fetchPages svc ses start calls n l).2.raws := by
  induction calls generalizing n l with
  | zero => exact ⟨[], Stores.refl ..⟩
  | succ calls ih =>
    rcases hfetch : ses.fetchPage n l.checkpoint with ⟨exc | ⟨items, nextCursor⟩, cp⟩
    · rw [fetchPages_error start calls hfetch]
      exact ⟨[], Stores.refl ..⟩
    by_cases hempty : items = []
    · rw [hempty] at hfetch
      rw [fetchPages_empty start calls hfetch, (finish_fields ..).1]
      exact ⟨[], Stores.refl ..⟩
    rcases hpage : readPage svc ses start n items nextCursor
        { l.beforeFetch (ses.pause n) with checkpoint := cp } with e | ⟨l', caughtUp⟩
    · rw [fetchPages_rolledBack calls hfetch hempty hpage]
      exact ⟨[], Stores.refl ..⟩
    obtain ⟨pg, hitems, -, hl'⟩ := readPage_ok hpage
    have hnow : t ≤ (l.beforeFetch (ses.pause n)).now := ht.trans (Nat.le_add_right ..)
    have hstores := ingestItems_stores hitems hnow fun x _ _ => hprepare n x
    change Stores svc t _ l.raws pg.raws at hstores
    rw [show pg.raws = l'.raws by rw [hl']] at hstores
    rw [fetchPages_read start calls hfetch hempty hpage]
    split
    · rw [(finish_fields ..).1]
      exact ⟨_, hstores⟩
    · split
      · rw [(finish_fields ..).1]
        exact ⟨_, hstores⟩
      · obtain ⟨rest, hrest⟩ := ih (n + 1) l' (by rw [hl']; exact hnow)
        exact ⟨_, hstores.append hrest⟩

/-- A checkpoint keeps its mode when the requests leave it alone. -/
theorem fetchPages_mode (hfetch : ∀ n cp, (ses.fetchPage n cp).2.mode = cp.mode)
    (start : SyncCheckpoint) (calls n : Nat) (l : Loop ι δ) :
    (fetchPages svc ses start calls n l).2.checkpoint.mode = l.checkpoint.mode := by
  induction calls generalizing n l with
  | zero => rfl
  | succ calls ih =>
    rcases hcall : ses.fetchPage n l.checkpoint with ⟨exc | ⟨items, nextCursor⟩, cp⟩
    · rw [fetchPages_error start calls hcall]
      exact (congrArg (fun out => out.2.mode) hcall).symm.trans (hfetch n l.checkpoint)
    have hcp : cp.mode = l.checkpoint.mode :=
      (congrArg (fun out => out.2.mode) hcall).symm.trans (hfetch n l.checkpoint)
    by_cases hempty : items = []
    · rw [hempty] at hcall
      rw [fetchPages_empty start calls hcall, (finish_bookmark ..).2]
      exact hcp
    rcases hpage : readPage svc ses start n items nextCursor
        { l.beforeFetch (ses.pause n) with checkpoint := cp } with e | ⟨l', caughtUp⟩
    · rw [fetchPages_rolledBack calls hcall hempty hpage]
      exact hcp
    obtain ⟨pg, -, -, -, -, -, hcheckpoint⟩ := readPage_fields hpage
    have hmode : l'.checkpoint.mode = l.checkpoint.mode := by
      rw [hcheckpoint]
      split
      · exact hcp
      · exact (advancePage_keys ..).1.trans hcp
    rw [fetchPages_read start calls hcall hempty hpage]
    split
    · exact (finish_bookmark ..).2.trans hmode
    · split
      · exact (finish_bookmark ..).2.trans hmode
      · exact (ih (n + 1) l').trans hmode

/-- What follows a page keeps what it stored. -/
theorem fetchPages_read_stores {cp : SyncCheckpoint} (calls : Nat)
    (hprepare : ∀ n x, ses.prepareItem n x ≠ .skipItem)
    (h : ses.fetchPage n l.checkpoint = (.ok (items, nextCursor), cp)) (hne : items ≠ [])
    (hpage : readPage svc ses start n items nextCursor
      { l.beforeFetch (ses.pause n) with checkpoint := cp } = .ok (l', caughtUp)) :
    ∃ stored, Stores svc 0 stored l'.raws (fetchPages svc ses start (calls + 1) n l).2.raws := by
  rw [fetchPages_read start calls h hne hpage]
  split
  · rw [(finish_fields ..).1]
    exact ⟨[], Stores.refl ..⟩
  · split
    · rw [(finish_fields ..).1]
      exact ⟨[], Stores.refl ..⟩
    · exact fetchPages_someStores svc ses hprepare start calls (n + 1) l' (Nat.zero_le _)

variable (svc ses) in
theorem fetchPages_header (start : SyncCheckpoint) (calls n : Nat) (l : Loop ι δ) :
    (fetchPages svc ses start calls n l).2.run.header = l.run.header := by
  induction calls generalizing n l with
  | zero => rfl
  | succ calls ih =>
    rw [fetchPages_succ]
    rcases ses.fetchPage n (l.beforeFetch (ses.pause n)).checkpoint with
      ⟨exc | ⟨items, nextCursor⟩, checkpoint⟩
    · rfl
    · dsimp only
      split
      · rw [(finish_fields ..).2]
        rfl
      · rcases hpage : readPage svc ses start n items nextCursor
          { l.beforeFetch (ses.pause n) with checkpoint } with e | ⟨l', caughtUp⟩
        · rfl
        · obtain ⟨pg, hitems, -, rfl⟩ := readPage_ok hpage
          have hheader := ingestItems_header hitems
          change pg.run.header = l.run.header at hheader
          dsimp only
          split
          · rw [(finish_fields ..).2]
            exact hheader
          · split
            · rw [(finish_fields ..).2]
              exact hheader
            · exact (ih _ _).trans hheader

variable (svc ses) in
theorem fetchPages_errorCount_le (start : SyncCheckpoint) (calls n : Nat) (l : Loop ι δ) :
    l.run.errorCount ≤ (fetchPages svc ses start calls n l).2.run.errorCount := by
  induction calls generalizing n l with
  | zero => exact Nat.le_refl _
  | succ calls ih =>
    rw [fetchPages_succ]
    rcases ses.fetchPage n (l.beforeFetch (ses.pause n)).checkpoint with
      ⟨exc | ⟨items, nextCursor⟩, checkpoint⟩
    · exact Nat.le_refl _
    · dsimp only
      split
      · rw [(finish_fields ..).2]
        exact Nat.le_refl _
      · rcases hpage : readPage svc ses start n items nextCursor
          { l.beforeFetch (ses.pause n) with checkpoint } with e | ⟨l', caughtUp⟩
        · exact Nat.le_refl _
        · have hcount := readPage_errorCount_le hpage
          change l.run.errorCount ≤ l'.run.errorCount at hcount
          dsimp only
          split
          · rw [(finish_fields ..).2]
            exact hcount
          · split
            · rw [(finish_fields ..).2]
              exact hcount
            · exact hcount.trans (ih _ _)

/-- A feed served in pages: `At cp rest` says that `rest` is left at the
checkpoint.  Every call fails or returns the next part of the feed. -/
def Serves (ses : Session ι δ) (At : SyncCheckpoint → List ι → Prop) : Prop :=
  ∀ n cp rest, At cp rest →
    (∃ exc cp', ses.fetchPage n cp = (.error exc, cp')) ∨
      ∃ items nextCursor cp' rest', ses.fetchPage n cp = (.ok (items, nextCursor), cp') ∧
        rest = items ++ rest' ∧ (items = [] ∨ nextCursor = "" → rest' = []) ∧
        cp'.mode = cp.mode ∧ cp'.lastSeenRemoteTimestamp = cp.lastSeenRemoteTimestamp ∧
        (items ≠ [] → nextCursor ≠ "" → ∀ cp'' : SyncCheckpoint, cp''.mode = cp'.mode →
          cp''.incrementalPage = cp'.incrementalPage → cp''.currentStatus = cp'.currentStatus →
          cp''.cursor = nextCursor → At cp'' rest')

/-- **One call of a run without a page limit** that ends well and raises no
counter: the feed is at its end, or the page ends the run, or the run goes on. -/
theorem fetchPages_step {At : SyncCheckpoint → List ι → Prop} {rest : List ι} {b : Bool}
    {stop : Option Nat} (hserve : Serves ses At) (hpages : svc.maxPages = none)
    (hat : At l.checkpoint rest) (hmode : l.checkpoint.mode = .incremental) (ht : t ≤ l.now)
    (hfail : l.parseFailedAny = false)
    (hstop : l.stopTimestamp.or l.checkpoint.lastSeenRemoteTimestamp = stop)
    (hout : fetchPages svc ses start (calls + 1) n l = (.ok b, l'))
    (herror : l'.run.errorCount = l.run.errorCount) :
    (rest = [] ∧ l'.raws = l.raws) ∨
      ∃ items rest' mid, rest = items ++ rest' ∧ items ≠ [] ∧
        (∃ next cp', ses.fetchPage n l.checkpoint = (.ok (items, next), cp')) ∧
        Stores svc t (kept svc (above (seen svc start stop) items)) l.raws mid ∧
        ((l'.raws = mid ∧ (rest' = [] ∨ items.any (seen svc start stop) = true)) ∨
          ∃ l₁ : Loop ι δ, l₁.raws = mid ∧ (∀ x ∈ items, seen svc start stop x = false) ∧
            fetchPages svc ses start calls (n + 1) l₁ = (.ok b, l') ∧ At l₁.checkpoint rest' ∧
            l₁.checkpoint.mode = .incremental ∧ t ≤ l₁.now ∧ l₁.parseFailedAny = false ∧
            l'.run.errorCount = l₁.run.errorCount ∧ l₁.stopTimestamp = stop ∧
            ∃ first, l₁.first = some first ∧
              l.first.or (items.head?.map fun x =>
                (remoteKey svc x, svc.extractRemoteTimestamp x)) = some first ∧
              l₁.checkpoint.lastSeenRemoteTimestamp
                = first.2.or l.checkpoint.lastSeenRemoteTimestamp) := by
  rw [fetchPages_succ] at hout
  have hbefore : (l.beforeFetch (ses.pause n)).stopTimestamp = stop := by
    show (if l.checkpoint.mode = .incremental then _ else _) = stop
    rw [if_pos hmode, hstop]
  rcases hserve n (l.beforeFetch (ses.pause n)).checkpoint rest hat with
    ⟨exc, cp', hfetch⟩ | ⟨items, next, cp', rest', hfetch, rfl, hlast, hmode', hts', hat'⟩
  · rw [hfetch] at hout
    cases hout
  rw [hfetch] at hout
  dsimp only at hout
  by_cases hempty : items = []
  · refine .inl ⟨by rw [hempty, hlast (.inl hempty)]; rfl, ?_⟩
    rw [hempty, if_pos List.isEmpty_nil] at hout
    have hraws := (finish_fields { l.beforeFetch (ses.pause n) with checkpoint := cp' } next).1
    rw [hout] at hraws
    exact hraws
  rw [if_neg (by simpa using hempty)] at hout
  refine .inr ⟨items, rest', ?_⟩
  rcases hpage : readPage svc ses start n items next
      { l.beforeFetch (ses.pause n) with checkpoint := cp' } with e | ⟨l₁, caughtUp⟩
  · rw [hpage] at hout
    cases hout
  rw [hpage] at hout
  dsimp only at hout
  -- no counter is raised, by the page or by what follows it
  have hcount := readPage_errorCount_le hpage
  change l.run.errorCount ≤ l₁.run.errorCount at hcount
  have hrest : l₁.run.errorCount ≤ l'.run.errorCount := by
    by_cases hend : (l₁.parseFailedAny || caughtUp || next == "") = true
    · rw [if_pos hend] at hout
      have hrun := (finish_fields l₁ next).2
      rw [hout] at hrun
      rw [show l'.run = l₁.run from hrun]
    · rw [if_neg hend, if_neg (by rw [pageLimitReached, hpages]; exact Bool.false_ne_true)] at hout
      have hle := fetchPages_errorCount_le svc ses start calls (n + 1) l₁
      rw [hout] at hle
      exact hle
  obtain ⟨hstores, hcaught, hfail', hnow, hstop', hfirst, pg, hcp, hpgFirst, hpgLast⟩ :=
    readPage_clean hpage (ht.trans (Nat.le_add_right ..)) hfail
      (show l₁.run.errorCount = l.run.errorCount by omega)
  change l₁.stopTimestamp = (l.beforeFetch (ses.pause n)).stopTimestamp at hstop'
  change Stores svc t (kept svc (above (seen svc start
    (l.beforeFetch (ses.pause n)).stopTimestamp) items)) l.raws l₁.raws at hstores
  change caughtUp = items.any (seen svc start (l.beforeFetch (ses.pause n)).stopTimestamp)
    at hcaught
  change l₁.first = l.first.or ((above (seen svc start
    (l.beforeFetch (ses.pause n)).stopTimestamp) items).head?.map _) at hfirst
  change pg.last = none → above (seen svc start
    (l.beforeFetch (ses.pause n)).stopTimestamp) items = [] at hpgLast
  rw [hbefore] at hstores hcaught hfirst hpgLast hstop'
  refine ⟨l₁.raws, rfl, hempty, ⟨next, cp', hfetch⟩, hstores, ?_⟩
  by_cases hend : (l₁.parseFailedAny || caughtUp || next == "") = true
  · left
    rw [if_pos hend] at hout
    have hraws := (finish_fields l₁ next).1
    rw [hout] at hraws
    refine ⟨hraws, ?_⟩
    rw [hfail', Bool.false_or, Bool.or_eq_true, beq_iff_eq] at hend
    rcases hend with hcaughtUp | hnext
    · exact .inr (hcaught.symm.trans hcaughtUp)
    · exact .inl (hlast (.inr hnext))
  · right
    rw [if_neg hend, if_neg (by rw [pageLimitReached, hpages]; exact Bool.false_ne_true)] at hout
    rw [hfail', Bool.false_or, Bool.or_eq_true, not_or, beq_iff_eq] at hend
    have hnone : ∀ x ∈ items, seen svc start stop x = false := by
      have hany := hend.1
      rw [hcaught, List.any_eq_true] at hany
      exact fun x hx => Bool.not_eq_true _ ▸ fun hx' => hany ⟨x, hx, hx'⟩
    rw [above_eq_self hnone] at hfirst hpgLast
    obtain ⟨last, hlast'⟩ : ∃ last, pg.last = some last :=
      Option.ne_none_iff_exists'.mp fun h => hempty (hpgLast h)
    obtain ⟨item, items', rfl⟩ := List.exists_cons_of_ne_nil hempty
    obtain ⟨first, hsome⟩ : ∃ first, l₁.first = some first := by
      rw [hfirst]
      rcases l.first with - | first <;> exact ⟨_, rfl⟩
    have hkeys := advancePage_keys cp' pg next l₁.now
    have hadvance : l₁.checkpoint = cp'.advance first.1 first.2 next l₁.now := by
      rw [hcp, hnow]
      unfold advancePage
      rw [hlast', hpgFirst, hsome]
      exact congrArg (fun mark : String × Option Nat => cp'.advance mark.1 mark.2 next _)
        (if_pos (hmode'.trans hmode))
    refine ⟨l₁, rfl, hnone, hout, ?_, ?_, ?_, hfail', by omega, hstop', first, hsome,
      hfirst.symm.trans hsome, ?_⟩
    · exact hat' hempty hend.2 _ (by rw [hadvance]; rfl) (by rw [hadvance]; rfl)
        (by rw [hadvance]; rfl) (by rw [hadvance]; rfl)
    · rw [hadvance]
      exact hmode'.trans hmode
    · rw [hnow]
      exact ht.trans (Nat.le_add_right ..)
    · rw [hadvance]
      exact congrArg (first.2.or ·) hts'

/-- **The pages after the first one**, where the stop no longer moves: they
store what is above it. -/
theorem fetchPages_stores {At : SyncCheckpoint → List ι → Prop} {rest : List ι} {b : Bool}
    {first : String × Option Nat} {stop : Option Nat} (hserve : Serves ses At)
    (hpages : svc.maxPages = none) (hat : At l.checkpoint rest)
    (hmode : l.checkpoint.mode = .incremental) (ht : t ≤ l.now) (hfail : l.parseFailedAny = false)
    (hfirst : l.first = some first)
    (hts : first.2.or l.checkpoint.lastSeenRemoteTimestamp = l.checkpoint.lastSeenRemoteTimestamp)
    (hstop : l.stopTimestamp.or l.checkpoint.lastSeenRemoteTimestamp = stop)
    (hout : fetchPages svc ses start calls n l = (.ok b, l'))
    (herror : l'.run.errorCount = l.run.errorCount) :
    Stores svc t (kept svc (above (seen svc start stop) rest)) l.raws l'.raws := by
  induction calls generalizing n l rest with
  | zero => cases hout
  | succ calls ih =>
    rcases fetchPages_step hserve hpages hat hmode ht hfail hstop hout herror with
      ⟨rfl, hraws⟩ | ⟨items, rest', mid, rfl, -, -, hstores, hend | ⟨l₁, hmid, hnone, hrest, hat₁,
        hmode₁, ht₁, hfail₁, hcount₁, hstop₁, first₁, hfirst₁, hsome₁, hts₁⟩⟩
    · rw [hraws]
      exact Stores.refl ..
    · obtain ⟨hraws, hend⟩ := hend
      rw [hraws]
      rcases hend with rfl | hany
      · rwa [List.append_nil]
      · rwa [above_append_of_stop (List.any_eq_true.mp hany)]
    · obtain rfl : first = first₁ := by
        rw [hfirst] at hsome₁
        exact Option.some.inj hsome₁
      rw [above_append hnone, kept_append]
      rw [above_eq_self hnone] at hstores
      refine hstores.append (hmid ▸ ih hat₁ hmode₁ ht₁ hfail₁ hfirst₁ ?_ ?_ hrest hcount₁)
      · rw [hts₁, hts, hts]
      · rw [hts₁, hts, hstop₁, ← hstop, Option.or_assoc, Option.or_self]

/-- What a run reads of a feed whose first page is `page`: the stop of the
first page is the stored timestamp; where there is none, the pages after it are
compared with the newest item. -/
def scan (svc : Service ι) (start : SyncCheckpoint) (page rest : List ι) : List ι :=
  let stop := start.lastSeenRemoteTimestamp
  if page.any (seen svc start stop) then above (seen svc start stop) page
  else page ++ above (seen svc start (stop.or (page.head?.bind svc.extractRemoteTimestamp))) rest

/-- **The whole loop of a run**: it stores what it scans. -/
theorem fetchPages_scan {At : SyncCheckpoint → List ι → Prop} {rest : List ι} {b : Bool}
    (hserve : Serves ses At) (hpages : svc.maxPages = none) (hat : At l.checkpoint rest)
    (hmode : l.checkpoint.mode = .incremental) (ht : t ≤ l.now) (hfail : l.parseFailedAny = false)
    (hfirst : l.first = none) (hstop : l.stopTimestamp = none)
    (hstart : start.lastSeenRemoteTimestamp = l.checkpoint.lastSeenRemoteTimestamp)
    (hout : fetchPages svc ses start calls n l = (.ok b, l'))
    (herror : l'.run.errorCount = l.run.errorCount) :
    ∃ page rest', rest = page ++ rest' ∧
      (page = [] ∧ rest' = [] ∨
        page ≠ [] ∧ ∃ next cp', ses.fetchPage n l.checkpoint = (.ok (page, next), cp')) ∧
      Stores svc t (kept svc (scan svc start page rest')) l.raws l'.raws := by
  rcases calls with - | calls
  · cases hout
  have hstop₀ : l.stopTimestamp.or l.checkpoint.lastSeenRemoteTimestamp
      = start.lastSeenRemoteTimestamp := by
    rw [hstop, hstart]
    rfl
  rcases fetchPages_step hserve hpages hat hmode ht hfail hstop₀ hout herror with
    ⟨rfl, hraws⟩ | ⟨items, rest', mid, rfl, hne, hfetch, hstores, hend | ⟨l₁, hmid, hnone, hrest,
      hat₁, hmode₁, ht₁, hfail₁, hcount₁, hstop₁, first₁, hfirst₁, hsome₁, hts₁⟩⟩
  · refine ⟨[], [], rfl, .inl ⟨rfl, rfl⟩, ?_⟩
    rw [hraws]
    exact Stores.refl ..
  · refine ⟨items, rest', rfl, .inr ⟨hne, hfetch⟩, ?_⟩
    rw [hend.1]
    by_cases hany : items.any (seen svc start start.lastSeenRemoteTimestamp) = true
    · rwa [scan, if_pos hany]
    · rcases hend.2 with rfl | hany'
      · rw [above_eq_self fun x hx => Bool.not_eq_true _ ▸ fun hx' =>
          hany (List.any_eq_true.mpr ⟨x, hx, hx'⟩)] at hstores
        rwa [scan, if_neg hany, above_nil, List.append_nil]
      · exact absurd hany' hany
  · refine ⟨items, rest', rfl, .inr ⟨hne, hfetch⟩, ?_⟩
    have hany : items.any (seen svc start start.lastSeenRemoteTimestamp) = false := by
      rw [List.any_eq_false]
      exact fun x hx => by rw [hnone x hx]; exact Bool.false_ne_true
    rw [scan, if_neg (by rw [hany]; exact Bool.false_ne_true), kept_append]
    rw [above_eq_self hnone] at hstores
    obtain ⟨item, items', rfl⟩ := List.exists_cons_of_ne_nil hne
    rw [hfirst] at hsome₁
    cases hsome₁
    refine hstores.append (hmid ▸ fetchPages_stores hserve hpages hat₁ hmode₁ ht₁ hfail₁ hfirst₁
      ?_ ?_ hrest hcount₁)
    · rw [hts₁, ← Option.or_assoc, Option.or_self]
    · -- the stop of the later pages: the stored timestamp, else that of the newest item
      rw [hts₁, hstop₁, ← hstart]
      show _ = start.lastSeenRemoteTimestamp.or (svc.extractRemoteTimestamp item)
      rcases start.lastSeenRemoteTimestamp with - | ts
      · exact Option.or_none
      · rfl

end Loop

/-! ### An incremental run -/

section Run

variable {ι δ : Type} [DecidableEq ι]
variable {svc : Service ι} {ses : Session ι δ} {db : SyncDb ι δ}

/-- The rows of the account: a checkpoint under its mode, raw payloads from
before. -/
structure SyncDb.WellFormed (db : SyncDb ι δ) : Prop where
  mode : ∀ mode, (db.checkpoint mode).mode = mode
  before : ∀ id raw, db.raws id = some raw → raw.lastSeenAt < db.now

/-- The incremental checkpoint as a run finds it. -/
def SyncDb.start (db : SyncDb ι δ) : SyncCheckpoint :=
  (db.checkpoint .incremental).clearTransient

/-- The run meets these pages. -/
def Session.over (ses : Session ι δ)
    (fetch : Nat → SyncCheckpoint → Except PyError (List ι × String) × SyncCheckpoint) :
    Session ι δ :=
  { ses with fetchPage := fetch }

/-- The run just recorded completed, and its error counter stands at zero. -/
def CompletesWithoutError (db out : SyncDb ι δ) : Prop :=
  ∃ run, out.runs = db.runs ++ [run] ∧ run.status = .completed ∧ run.errorCount = 0

omit [DecidableEq ι] in
/-- Seeding the incremental checkpoint touches nothing else. -/
theorem seedIncremental_rows (db : SyncDb ι δ) (backfill : SyncCheckpoint) :
    (seedIncremental db backfill).raws = db.raws ∧ (seedIncremental db backfill).now = db.now ∧
      (seedIncremental db backfill).checkpoint .backfill = db.checkpoint .backfill := by
  unfold seedIncremental
  dsimp only
  split <;> exact ⟨rfl, rfl, rfl⟩

/-- The rows an incremental run leaves are those of its loop. -/
theorem runSync_rows (svc : Service ι) (ses : Session ι δ)
    (reconcile : SyncRun → SyncDb ι δ → SyncRun × SyncDb ι δ) (db : SyncDb ι δ) :
    (runSync svc ses reconcile .incremental db).raws
        = (fetchLoop svc ses (startLoop db .incremental)).2.raws ∧
      (runSync svc ses reconcile .incremental db).checkpoint .incremental
        = (fetchLoop svc ses (startLoop db .incremental)).2.checkpoint := by
  unfold runSync
  rw [if_neg (fun h => nomatch h.1)]
  rcases fetchLoop svc ses (startLoop db .incremental) with ⟨e | b, l⟩
  · exact ⟨rfl, rfl⟩
  · dsimp only
    rw [if_neg (fun h => nomatch h.1)]
    exact ⟨rfl, rfl⟩

/-- **An incremental run that completes without error** has left its loop well,
with its counter at zero. -/
theorem runSync_completes
    {reconcile : SyncRun → SyncDb ι δ → SyncRun × SyncDb ι δ}
    (h : CompletesWithoutError db (runSync svc ses reconcile .incremental db)) :
    ∃ b l', fetchPages svc ses (db.checkpoint .incremental).clearTransient ses.calls 0
        (startLoop db .incremental) = (.ok b, l') ∧
      l'.run.errorCount = 0 ∧
      (runSync svc ses reconcile .incremental db).raws = l'.raws := by
  obtain ⟨run, hrun, hstatus, herror⟩ := h
  unfold runSync at hrun ⊢
  rw [if_neg fun h => nomatch h.1] at hrun ⊢
  have hkeep : (fetchLoop svc ses (startLoop db .incremental)).2.run.status = .running := by
    unfold fetchLoop
    split
    · rfl
    · exact congrArg Prod.fst (fetchPages_header ..)
  have hloop : ∀ b l', fetchLoop svc ses (startLoop db .incremental) = (.ok b, l') →
      fetchPages svc ses (db.checkpoint .incremental).clearTransient ses.calls 0
        (startLoop db .incremental) = (.ok b, l') := by
    intro b l' hout
    unfold fetchLoop at hout
    split at hout
    · cases hout
    · exact hout
  rcases hout : fetchLoop svc ses (startLoop db .incremental) with ⟨e | b, l'⟩
  · -- a run that fails is not recorded as completed
    rw [hout] at hrun hkeep
    have hlast : l'.run.fail l'.now e = run := List.singleton_inj.mp (List.append_cancel_left hrun)
    exfalso
    rw [← hlast] at hstatus
    cases e with
    | stopSync message => cases hstatus
    | raised exc => cases hstatus
    | killed => exact absurd (hkeep.symm.trans hstatus) nofun
  · rw [hout] at hrun
    dsimp only at hrun ⊢
    rw [if_neg fun h => nomatch h.1] at hrun ⊢
    have hlast : l'.run.finish .completed l'.now = run :=
      List.singleton_inj.mp (List.append_cancel_left hrun)
    refine ⟨b, l', hloop b l' hout, ?_, rfl⟩
    rw [← hlast] at herror
    exact herror

/-- **An incremental run over a served feed** that completes without error
stores what it scans, and nothing else. -/
theorem runSync_stores {At : SyncCheckpoint → List ι → Prop} {feed : List ι}
    {reconcile : SyncRun → SyncDb ι δ → SyncRun × SyncDb ι δ} (hserve : Serves ses At)
    (hpages : svc.maxPages = none) (hat : At (db.checkpoint .incremental).clearTransient feed)
    (hmode : (db.checkpoint .incremental).mode = .incremental)
    (h : CompletesWithoutError db (runSync svc ses reconcile .incremental db)) :
    ∃ page rest, feed = page ++ rest ∧
      (page = [] ∧ rest = [] ∨
        page ≠ [] ∧ ∃ next cp',
          ses.fetchPage 0 (db.checkpoint .incremental).clearTransient
            = (.ok (page, next), cp')) ∧
      Stores svc db.now
        (kept svc (scan svc (db.checkpoint .incremental).clearTransient page rest)) db.raws
        (runSync svc ses reconcile .incremental db).raws := by
  obtain ⟨b, l', hout, herror, hraws⟩ := runSync_completes h
  rw [hraws]
  exact fetchPages_scan (l := startLoop db .incremental) hserve hpages hat hmode (Nat.le_refl _)
    rfl rfl rfl rfl hout herror

end Run

/-- Where the stop does not depend on the timestamp, or one is stored, a run
scans what is above the stop. -/
theorem scan_eq_above {ι : Type} {svc : Service ι} {start : SyncCheckpoint} {page rest : List ι}
    (h : start.lastSeenRemoteTimestamp ≠ none ∨
      ∀ ts, seen svc start ts = seen svc start start.lastSeenRemoteTimestamp) :
    scan svc start page rest
      = above (seen svc start start.lastSeenRemoteTimestamp) (page ++ rest) := by
  have hstop : ∀ ts, seen svc start (start.lastSeenRemoteTimestamp.or ts)
      = seen svc start start.lastSeenRemoteTimestamp := by
    intro ts
    rcases h with h | h
    · obtain ⟨stop, hstop⟩ := Option.ne_none_iff_exists'.mp h
      rw [hstop]
      rfl
    · exact h _
  unfold scan
  dsimp only
  by_cases hany : page.any (seen svc start start.lastSeenRemoteTimestamp) = true
  · rw [if_pos hany, above_append_of_stop (List.any_eq_true.mp hany)]
  · rw [if_neg hany, hstop, above_append fun x hx => Bool.not_eq_true _ ▸ fun hx' =>
      hany (List.any_eq_true.mpr ⟨x, hx, hx'⟩)]

end Sda.Sync
