/-
Sda/Sync/Blocking.lean

Which payloads hold the checkpoint back.

A payload that does not apply holds the checkpoint back while it has attempts
left.  What is stored under the item's id decides that (`spared`): a payload
that changed starts over, one that was parsed is not parsed again.

* `applyItem_parseFailed` — one payload, exactly;
* `ingestItems_passes`, `ingestItems_blocks` — a page none of whose items
  blocks, and a page with one that does;
* `ingestItems_ok` — a page whose items have ids and raise nothing is read to
  its end.
-/
import Sda.Sync.Pages

namespace Sda.Sync

section Blocking

variable {ι δ : Type} [DecidableEq ι]
variable {svc : Service ι} {ses : Session ι δ} {isSeen : ι → Bool} {now n t : Nat}
variable {item : ι} {items : List ι} {pg pg' : Page ι δ}

/-- Does what is stored keep a failing payload from blocking? -/
def spared (svc : Service ι) (payload : ι) : Option (RawPayload ι) → Bool
  | none => false
  | some raw =>
    decide (raw.payload = payload) &&
      (decide (raw.parseStatus ≠ .failed) && decide (raw.parseStatus ≠ .pending) ||
        decide (svc.maxParseRetryAttempts ≤ raw.parseAttempts + 1))

/-- The item does not hold the checkpoint back, whatever the domain holds. -/
def Passes (svc : Service ι) (ses : Session ι δ) (n : Nat)
    (raws : String → Option (RawPayload ι)) (item : ι) : Prop :=
  svc.shouldSkipItem item = true ∨
    ∀ payload, ses.prepareItem n item = .item payload →
      ses.phase = .ingest ∨ (∀ domain, (ses.parseAndApply n payload domain).1.isOk = true) ∨
        spared svc payload (raws (remoteKey svc item)) = true

/-- The item holds the checkpoint back, whatever the domain holds. -/
def Blocks (svc : Service ι) (ses : Session ι δ) (n : Nat)
    (raws : String → Option (RawPayload ι)) (item : ι) : Prop :=
  svc.shouldSkipItem item = false ∧ ses.phase ≠ .ingest ∧
    ∃ payload, ses.prepareItem n item = .item payload ∧
      (∀ domain, (ses.parseAndApply n payload domain).1.isOk = false) ∧
        spared svc payload (raws (remoteKey svc item)) = false

/-- What is not spared is parsed, with an attempt left. -/
theorem ingestRaw_blocks_iff (hmax : 1 < svc.maxParseRetryAttempts) (now : Nat) (payload : ι)
    (old : Option (RawPayload ι)) :
    (ingestRaw now payload old).parseStatus = .pending ∧
        (ingestRaw now payload old).parseAttempts + 1 < svc.maxParseRetryAttempts ↔
      spared svc payload old = false := by
  rcases old with - | raw
  · exact iff_of_true ⟨rfl, hmax⟩ rfl
  by_cases hpayload : raw.payload = payload
  · by_cases hfailed : raw.parseStatus = .failed
    · rw [ingestRaw, if_pos (.inr hfailed)]
      simp [spared, hpayload, hfailed]
    · rw [ingestRaw, if_neg (by simp [hpayload, hfailed])]
      simp [spared, hpayload, hfailed]
  · rw [ingestRaw, if_pos (.inl hpayload)]
    simp [spared, hpayload, hmax]

/-- **One payload** blocks exactly when it is parsed, fails and is not
spared. -/
theorem applyItem_parseFailed (hmax : 1 < svc.maxParseRetryAttempts) (ses : Session ι δ)
    (now n : Nat) (remoteId : String) (payload : ι) (pg : Page ι δ) :
    (applyItem svc ses now n remoteId payload pg).pageParseFailed
      = (pg.pageParseFailed || (decide (ses.phase ≠ .ingest) &&
          !(ses.parseAndApply n payload pg.domain).1.isOk &&
          !spared svc payload (pg.raws remoteId))) := by
  have hblocks := ingestRaw_blocks_iff hmax now payload (pg.raws remoteId)
  have hpayload := ingestRaw_payload now payload (pg.raws remoteId)
  unfold applyItem
  dsimp only
  by_cases hphase : ses.phase = .ingest
  · rw [if_pos hphase, decide_eq_false (not_not.mpr hphase)]
    simp
  rw [if_neg hphase, decide_eq_true hphase, Bool.true_and]
  unfold tryParse
  by_cases hpending : (ingestRaw now payload (pg.raws remoteId)).parseStatus = .pending
  · rw [if_neg (not_not.mpr hpending), hpayload]
    rcases ses.parseAndApply n payload pg.domain with ⟨message | result, domain⟩
    · -- a failure uses one attempt
      have hshould : parseShouldBlock svc ((ingestRaw now payload (pg.raws remoteId)).settle now
          (.error message)) = !spared svc payload (pg.raws remoteId) := by
        rw [Bool.eq_iff_iff, Bool.not_eq_true', ← hblocks]
        simp [parseShouldBlock, RawPayload.settle, hpending]
      show (pg.pageParseFailed || (!false && parseShouldBlock svc _)) = _
      rw [hshould]
      rfl
    · rfl
  · rw [if_pos hpending]
    have hspared : spared svc payload (pg.raws remoteId) = true := by
      rw [← Bool.not_eq_false, ← hblocks]
      exact fun h => hpending h.1
    rw [hspared]
    simp

/-- An item leaves the flag alone or sets it. -/
theorem ingestItem_parseFailed (hmax : 1 < svc.maxParseRetryAttempts)
    (h : ingestItem svc ses now n pg item = .ok pg') :
    (Passes svc ses n pg.raws item → pg'.pageParseFailed = pg.pageParseFailed) ∧
      (Blocks svc ses n pg.raws item → pg'.pageParseFailed = true) ∧
      (pg.pageParseFailed = true → pg'.pageParseFailed = true) := by
  obtain ⟨-, pg₁, errors, rfl, hcases⟩ := ingestItem_cases h
  rcases hcases with ⟨hskip, -, rfl⟩ | ⟨hskip, hprepare, -, rfl⟩ | ⟨hskip, -, payload, hprepare, rfl⟩
  · exact ⟨fun _ => rfl, fun hblocks => absurd (hskip.symm.trans hblocks.1) nofun, fun h => h⟩
  · refine ⟨fun _ => rfl, fun hblocks => ?_, fun h => h⟩
    obtain ⟨-, -, payload, hprepare', -⟩ := hblocks
    exact absurd (hprepare.symm.trans hprepare') nofun
  · have hfailed := applyItem_parseFailed hmax ses now n (remoteKey svc item) payload
      (Page.noteFirst svc pg item)
    refine ⟨fun hpasses => hfailed.trans ?_, fun hblocks => hfailed.trans ?_,
      fun h => hfailed.trans ?_⟩
    · show (pg.pageParseFailed || _) = pg.pageParseFailed
      rcases hpasses with hskip' | hpasses
      · exact absurd (hskip.symm.trans hskip') nofun
      · rcases hpasses payload hprepare with hphase | hok | hspared
        · simp [hphase]
        · simp [hok pg.domain, Page.noteFirst]
        · rw [show spared svc payload ((Page.noteFirst svc pg item).raws (remoteKey svc item)) = true
            from hspared]
          simp
    · obtain ⟨-, hphase, payload', hprepare', herror, hspared⟩ := hblocks
      obtain rfl : payload = payload' := Prepared.item.inj (hprepare.symm.trans hprepare')
      rw [show spared svc payload ((Page.noteFirst svc pg item).raws (remoteKey svc item)) = false
        from hspared, herror]
      simp [hphase]
    · rw [show (Page.noteFirst svc pg item).pageParseFailed = true from h]
      rfl

/-- What is stored under the ids of other items decides nothing. -/
theorem passes_congr {raws raws' : String → Option (RawPayload ι)}
    (h : raws' (remoteKey svc item) = raws (remoteKey svc item)) :
    Passes svc ses n raws item ↔ Passes svc ses n raws' item := by
  rw [Passes, Passes, h]

theorem blocks_congr {raws raws' : String → Option (RawPayload ι)}
    (h : raws' (remoteKey svc item) = raws (remoteKey svc item)) :
    Blocks svc ses n raws item ↔ Blocks svc ses n raws' item := by
  rw [Blocks, Blocks, h]

/-- The row of another item is not touched. -/
theorem ingestItem_other (h : ingestItem svc ses now n pg item = .ok pg') (id : String)
    (hid : id ≠ remoteKey svc item) : pg'.raws id = pg.raws id := by
  obtain ⟨-, pg₁, errors, rfl, hcases⟩ := ingestItem_cases h
  rcases hcases with ⟨-, -, rfl⟩ | ⟨-, -, -, rfl⟩ | ⟨-, -, payload, -, rfl⟩
  · rfl
  · rfl
  · have hstores := applyItem_stores svc ses n item payload (Page.noteFirst svc pg item)
      (Nat.zero_le now)
    apply hstores.other
    intro x hx
    rw [List.mem_singleton.mp hx]
    exact hid.symm

/-- **A page whose items all pass** leaves the flag alone. -/
theorem ingestItems_passes (hmax : 1 < svc.maxParseRetryAttempts)
    (h : ingestItems svc ses isSeen now n items pg = .ok pg')
    (hkeys : ((above isSeen items).map (remoteKey svc)).Nodup)
    (hpasses : ∀ x ∈ above isSeen items, Passes svc ses n pg.raws x) :
    pg'.pageParseFailed = pg.pageParseFailed := by
  induction items generalizing pg with
  | nil =>
    cases h
    rfl
  | cons item items ih =>
    by_cases hseen : isSeen item = true
    · rw [ingestItems_cons_seen hseen] at h
      cases h
      rfl
    · have hseen' := Bool.not_eq_true _ ▸ hseen
      obtain ⟨pg₁, hitem, hrest⟩ := ingestItems_cons_ok hseen' h
      rw [above_cons hseen', List.map_cons, List.nodup_cons] at hkeys
      rw [above_cons hseen'] at hpasses
      have hfirst := (ingestItem_parseFailed hmax hitem).1 (hpasses item List.mem_cons_self)
      refine (ih hrest hkeys.2 fun x hx => ?_).trans hfirst
      -- the other items are stored under other ids
      have hother := ingestItem_other hitem (remoteKey svc x)
        (fun heq => hkeys.1 (heq ▸ List.mem_map_of_mem hx))
      exact (passes_congr hother).mp (hpasses x (List.mem_cons_of_mem _ hx))

theorem ingestItems_parseFailed_mono (hmax : 1 < svc.maxParseRetryAttempts)
    (h : ingestItems svc ses isSeen now n items pg = .ok pg') (hfailed : pg.pageParseFailed = true) :
    pg'.pageParseFailed = true := by
  induction items generalizing pg with
  | nil =>
    cases h
    exact hfailed
  | cons item items ih =>
    by_cases hseen : isSeen item = true
    · rw [ingestItems_cons_seen hseen] at h
      cases h
      exact hfailed
    · obtain ⟨pg₁, hitem, hrest⟩ := ingestItems_cons_ok (Bool.not_eq_true _ ▸ hseen) h
      exact ih hrest ((ingestItem_parseFailed hmax hitem).2.2 hfailed)

/-- **A page with an item that blocks** sets it. -/
theorem ingestItems_blocks (hmax : 1 < svc.maxParseRetryAttempts)
    (h : ingestItems svc ses isSeen now n items pg = .ok pg')
    (hkeys : ((above isSeen items).map (remoteKey svc)).Nodup) {x : ι}
    (hx : x ∈ above isSeen items) (hblocks : Blocks svc ses n pg.raws x) :
    pg'.pageParseFailed = true := by
  induction items generalizing pg with
  | nil => cases hx
  | cons item items ih =>
    by_cases hseen : isSeen item = true
    · rw [above_cons_of_stop hseen] at hx
      cases hx
    · have hseen' := Bool.not_eq_true _ ▸ hseen
      obtain ⟨pg₁, hitem, hrest⟩ := ingestItems_cons_ok hseen' h
      rw [above_cons hseen', List.map_cons, List.nodup_cons] at hkeys
      rw [above_cons hseen'] at hx
      rcases List.mem_cons.mp hx with rfl | hx
      · exact ingestItems_parseFailed_mono hmax hrest
          ((ingestItem_parseFailed hmax hitem).2.1 hblocks)
      · have hother := ingestItem_other hitem (remoteKey svc x)
          (fun heq => hkeys.1 (heq ▸ List.mem_map_of_mem hx))
        exact ih hrest hkeys.2 hx ((blocks_congr hother).mp hblocks)

/-- A page is only read to its end when its items have ids. -/
theorem ingestItems_key_ne (h : ingestItems svc ses isSeen now n items pg = .ok pg') {x : ι}
    (hx : x ∈ above isSeen items) : remoteKey svc x ≠ "" := by
  induction items generalizing pg with
  | nil => cases hx
  | cons item items ih =>
    by_cases hseen : isSeen item = true
    · rw [above_cons_of_stop hseen] at hx
      cases hx
    · have hseen' := Bool.not_eq_true _ ▸ hseen
      obtain ⟨pg₁, hitem, hrest⟩ := ingestItems_cons_ok hseen' h
      rw [above_cons hseen'] at hx
      rcases List.mem_cons.mp hx with rfl | hx
      · exact (ingestItem_cases hitem).1
      · exact ih hrest hx

variable (svc ses isSeen now n items) in
/-- A page whose items have ids and raise nothing is read to its end. -/
theorem ingestItems_ok (hid : ∀ x ∈ above isSeen items, remoteKey svc x ≠ "")
    (hprepare : ∀ x, (∃ payload, ses.prepareItem n x = .item payload) ∨
      ses.prepareItem n x = .skipItem) (pg : Page ι δ) :
    ∃ pg', ingestItems svc ses isSeen now n items pg = .ok pg' := by
  induction items generalizing pg with
  | nil => exact ⟨pg, rfl⟩
  | cons item items ih =>
    by_cases hseen : isSeen item = true
    · exact ⟨_, ingestItems_cons_seen hseen⟩
    · have hseen' := Bool.not_eq_true _ ▸ hseen
      rw [above_cons hseen'] at hid
      obtain ⟨pg₁, hitem⟩ : ∃ pg₁, ingestItem svc ses now n pg item = .ok pg₁ := by
        unfold ingestItem validatedRemoteId
        rw [if_neg (show ¬stripText (svc.extractRemoteId item) = "" from
          hid item List.mem_cons_self)]
        dsimp only
        split
        · exact ⟨_, rfl⟩
        · rcases hprepare item with ⟨payload, hpayload⟩ | hskip
          · rw [hpayload]
            exact ⟨_, rfl⟩
          · rw [hskip]
            exact ⟨_, rfl⟩
      obtain ⟨pg', hrest⟩ := ih (fun x hx => hid x (List.mem_cons_of_mem _ hx)) pg₁
      refine ⟨pg', ?_⟩
      rw [ingestItems, if_neg hseen, hitem]
      exact hrest

end Blocking

end Sda.Sync
