/-
Sda/Sync/Enrichment.lean

Enriched payloads under two writers: the order sync stores an order with the
delivery credentials its `prepare_item` fetched, the status refresh stores the
summary the API lists.

Both write one row at a time, so an interleaving of runs is a run of row
events (`refreshAccount_raws`, `fetchPages_raws`).  A `Shape` says what the
enrichment of a provider adds; `gameboostShape` and `eldoradoShape` are the two
that `prepare_item` uses.

Main result: `enrichment_kept_iff`, which overwrites keep every enriched payload
and leave unchanged orders alone.
-/
import Sda.Lib.Run
import Sda.Sync.Refresh

namespace Sda.Sync

/-- What the enrichment of a provider adds to an item. -/
structure Shape (ι : Type) where
  /-- The item without what was added. -/
  summary : ι → ι
  enriched : ι → Bool

/-- `_credential_entries`. -/
def gameboostShape : Shape GameboostOrder where
  summary o := { o with credentialEntries := none }
  enriched o := o.credentialEntries.isSome

/-- `accountDetails`. -/
def eldoradoShape : Shape EldoradoOrder where
  summary o := { o with accountDetails := none }
  enriched o := o.accountDetails.isSome

/-- `prepare_item` of GameBoost keeps the summary. -/
theorem gameboostPrepareItem_summary {answer : String → CredentialsAnswer} {o p : GameboostOrder}
    (h : gameboostPrepareItem answer o = .item p) :
    gameboostShape.summary p = gameboostShape.summary o := by
  unfold gameboostPrepareItem at h
  split at h
  · cases h
    rfl
  · split at h
    · cases h
      rfl
    · cases h
      rfl
    · split at h
      · cases h
        rfl
      · split at h <;> cases h <;> rfl

/-- `prepare_item` of Eldorado keeps the summary. -/
theorem eldoradoPrepareItem_summary {answer : String → Option String} {o p : EldoradoOrder}
    (h : eldoradoPrepareItem answer o = .item p) :
    eldoradoShape.summary p = eldoradoShape.summary o := by
  unfold eldoradoPrepareItem at h
  split at h
  · split at h <;> cases h <;> rfl
  · cases h
    rfl

/-! ### Row events -/

/-- One row written by a sync run or by a refresh.  A sync run in the ingest
phase does not parse. -/
inductive RawEvent (ι : Type)
  | sync (now : Nat) (remoteId : String) (payload : ι)
      (result : Option (Except String ParseResult))
  | refresh (now : Nat) (remoteId : String) (item : ι) (result : Except String ParseResult)

/-- The rows, and ghost: the remote ids whose payload was once enriched. -/
structure OrderRaws (ι : Type) where
  raws : String → Option (RawPayload ι)
  held : String → Bool

section Store

variable {ι : Type} [DecidableEq ι]

/-- `_ingest_raw` and, for a payload that is PENDING then, the outcome of
`_try_parse`. -/
def storeRaw (now : Nat) (payload : ι) (result : Option (Except String ParseResult))
    (old : Option (RawPayload ι)) : RawPayload ι :=
  let raw := ingestRaw now payload old
  match result with
  | none => raw
  | some result => if raw.parseStatus = .pending then raw.settle now result else raw

def OrderRaws.store (shape : Shape ι) (s : OrderRaws ι) (remoteId : String) (raw : RawPayload ι) :
    OrderRaws ι where
  raws := Function.update s.raws remoteId (some raw)
  held id := s.held id || (id == remoteId && shape.enriched raw.payload)

def rawStep (shape : Shape ι) (s : OrderRaws ι) : RawEvent ι → OrderRaws ι
  | .sync now remoteId payload result =>
    s.store shape remoteId (storeRaw now payload result (s.raws remoteId))
  | .refresh now remoteId item result =>
    s.store shape remoteId (storeRaw now item (some result) (s.raws remoteId))

/-- The rows as they are, nothing lost yet. -/
def OrderRaws.start (shape : Shape ι) (raws : String → Option (RawPayload ι)) : OrderRaws ι where
  raws
  held id := (raws id).any fun raw => shape.enriched raw.payload

/-- Every payload that was once enriched still is. -/
def OrderRaws.Kept (shape : Shape ι) (s : OrderRaws ι) : Prop :=
  ∀ id, s.held id = true → ∃ raw, s.raws id = some raw ∧ shape.enriched raw.payload = true

/-- **The effect of an event**: enriched payloads are kept, and a refresh with
an unchanged summary leaves payload and parse state alone. -/
def KeepsEnrichment (shape : Shape ι) (s : OrderRaws ι) (e : RawEvent ι) : Prop :=
  (rawStep shape s e).Kept shape ∧
    match e with
    | .sync .. => True
    | .refresh now remoteId item _ =>
      ∀ raw, s.raws remoteId = some raw → shape.summary raw.payload = shape.summary item →
        (rawStep shape s e).raws remoteId = some { raw with lastSeenAt := now, fetchedAt := now }

/-- **The condition on an event**: over an enriched payload only an enriched one
is written, and a refresh that finds an unchanged summary finds the very
payload it was served, neither FAILED nor PENDING. -/
def WritesEnriched (shape : Shape ι) (s : OrderRaws ι) : RawEvent ι → Prop
  | .sync _ remoteId payload _ =>
    ∀ raw, s.raws remoteId = some raw → shape.enriched raw.payload = true →
      shape.enriched payload = true
  | .refresh _ remoteId item _ =>
    ∀ raw, s.raws remoteId = some raw →
      (shape.enriched raw.payload = true → shape.enriched item = true) ∧
        (shape.summary raw.payload = shape.summary item →
          raw.payload = item ∧ raw.parseStatus ≠ .failed ∧ raw.parseStatus ≠ .pending)

/-! ### One row -/

section Row

variable {shape : Shape ι} {s : OrderRaws ι} {now : Nat} {remoteId : String} {payload : ι}
variable {result : Option (Except String ParseResult)} {raw : RawPayload ι}

/-- Whatever was there, the row then holds the payload written. -/
@[simp] theorem storeRaw_payload (old : Option (RawPayload ι)) :
    (storeRaw now payload result old).payload = payload := by
  unfold storeRaw
  rcases result with - | result
  · exact ingestRaw_payload ..
  · dsimp only
    split
    · rw [settle_payload, ingestRaw_payload]
    · exact ingestRaw_payload ..

/-- A row is only touched when it holds the payload already and is neither
FAILED nor PENDING. -/
theorem storeRaw_touches_iff (result : Except String ParseResult) :
    storeRaw now payload (some result) (some raw)
        = { raw with lastSeenAt := now, fetchedAt := now } ↔
      raw.payload = payload ∧ raw.parseStatus ≠ .failed ∧ raw.parseStatus ≠ .pending := by
  constructor
  · intro h
    have hpayload : raw.payload = payload := by
      have := congrArg RawPayload.payload h
      rw [storeRaw_payload] at this
      exact this.symm
    have hstatus := congrArg RawPayload.parseStatus h
    have hattempts := congrArg RawPayload.parseAttempts h
    refine ⟨hpayload, fun hfailed => ?_, fun hpending => ?_⟩
    · simp only [storeRaw, ingestRaw, hfailed, hpayload] at hstatus hattempts
      cases result with
      | ok r => simp [RawPayload.settle] at hstatus
      | error m => simp [RawPayload.settle] at hattempts
    · simp only [storeRaw, ingestRaw, hpending, hpayload] at hstatus
      cases result <;> simp [RawPayload.settle] at hstatus
  · rintro ⟨hpayload, hfailed, hpending⟩
    simp [storeRaw, ingestRaw, hpayload, hfailed, hpending]

omit [DecidableEq ι] in
theorem store_raws_self : (s.store shape remoteId raw).raws remoteId = some raw :=
  Function.update_self ..

omit [DecidableEq ι] in
theorem store_raws_ne {id : String} (h : id ≠ remoteId) :
    (s.store shape remoteId raw).raws id = s.raws id :=
  Function.update_of_ne h ..

omit [DecidableEq ι] in
/-- Writing a row keeps what was enriched exactly when the row was not, or is. -/
theorem store_kept_iff (remoteId : String) (raw : RawPayload ι) (h : s.Kept shape)
    (hheld : ∀ id raw, s.raws id = some raw → shape.enriched raw.payload = true →
      s.held id = true) :
    (s.store shape remoteId raw).Kept shape ↔
      ∀ old, s.raws remoteId = some old → shape.enriched old.payload = true →
        shape.enriched raw.payload = true := by
  constructor
  · intro hkept old hold henriched
    have hid : (s.store shape remoteId raw).held remoteId = true := by
      show (s.held remoteId || _) = true
      rw [hheld remoteId old hold henriched]
      rfl
    obtain ⟨raw', hraw', henriched'⟩ := hkept remoteId hid
    rw [store_raws_self] at hraw'
    cases hraw'
    exact henriched'
  · intro hwrite id hid
    by_cases heq : id = remoteId
    · subst heq
      refine ⟨raw, store_raws_self, ?_⟩
      rcases Bool.or_eq_true _ _ ▸ hid with hid | hid
      · obtain ⟨old, hold, henriched⟩ := h id hid
        exact hwrite old hold henriched
      · exact (Bool.and_eq_true _ _ ▸ hid).2
    · have hid' : s.held id = true := by
        rcases Bool.or_eq_true _ _ ▸ hid with hid | hid
        · exact hid
        · rw [beq_eq_false_iff_ne.mpr heq] at hid
          cases hid
      obtain ⟨old, hold, henriched⟩ := h id hid'
      exact ⟨old, (store_raws_ne heq).trans hold, henriched⟩

end Row

/-! ### Runs of row events -/

/-- The ghost is about the rows as they are, and nothing was lost. -/
structure RawsInv (shape : Shape ι) (s : OrderRaws ι) : Prop where
  held : ∀ id raw, s.raws id = some raw → shape.enriched raw.payload = true → s.held id = true
  kept : s.Kept shape

section Events

variable {shape : Shape ι} {s : OrderRaws ι}

omit [DecidableEq ι] in
theorem rawsInv_start (shape : Shape ι) (raws : String → Option (RawPayload ι)) :
    RawsInv shape (OrderRaws.start shape raws) := by
  refine ⟨fun id raw hraw henriched => ?_, fun id hid => ?_⟩
  · show Option.any _ (raws id) = true
    rw [show raws id = some raw from hraw]
    exact henriched
  · obtain ⟨raw, hraw, henriched⟩ := (Option.any_eq_true _ _).mp hid
    exact ⟨raw, hraw, henriched⟩

omit [DecidableEq ι] in
theorem held_store {remoteId : String} {raw : RawPayload ι}
    (h : ∀ id raw, s.raws id = some raw → shape.enriched raw.payload = true → s.held id = true) :
    ∀ id raw', (s.store shape remoteId raw).raws id = some raw' →
      shape.enriched raw'.payload = true → (s.store shape remoteId raw).held id = true := by
  intro id raw' hraw' henriched
  show (s.held id || (id == remoteId && shape.enriched raw.payload)) = true
  by_cases heq : id = remoteId
  · subst heq
    rw [store_raws_self] at hraw'
    cases hraw'
    rw [henriched, beq_self_eq_true, Bool.and_self, Bool.or_true]
  · rw [store_raws_ne heq] at hraw'
    rw [h id raw' hraw' henriched, Bool.true_or]

theorem keepsEnrichment_iff (hinv : RawsInv shape s) (e : RawEvent ι) :
    KeepsEnrichment shape s e ↔ WritesEnriched shape s e := by
  cases e with
  | sync now remoteId payload result =>
    have hkept := store_kept_iff remoteId (storeRaw now payload result (s.raws remoteId))
      hinv.kept hinv.held
    rw [storeRaw_payload] at hkept
    exact (and_iff_left trivial).trans hkept
  | refresh now remoteId item result =>
    have hkept := store_kept_iff remoteId (storeRaw now item (some result) (s.raws remoteId))
      hinv.kept hinv.held
    rw [storeRaw_payload] at hkept
    have htouch : ∀ raw, s.raws remoteId = some raw →
        ((rawStep shape s (.refresh now remoteId item result)).raws remoteId
            = some { raw with lastSeenAt := now, fetchedAt := now } ↔
          raw.payload = item ∧ raw.parseStatus ≠ .failed ∧ raw.parseStatus ≠ .pending) := by
      intro raw hraw
      rw [rawStep, store_raws_self, hraw, Option.some.injEq]
      exact storeRaw_touches_iff result
    constructor
    · rintro ⟨hkeeps, hsame⟩ raw hraw
      exact ⟨hkept.mp hkeeps raw hraw, fun hsum => (htouch raw hraw).mp (hsame raw hraw hsum)⟩
    · intro hcond
      refine ⟨hkept.mpr fun raw hraw => (hcond raw hraw).1, fun raw hraw hsum => ?_⟩
      exact (htouch raw hraw).mpr ((hcond raw hraw).2 hsum)

theorem rawsInv_step (hinv : RawsInv shape s) {e : RawEvent ι} (h : WritesEnriched shape s e) :
    RawsInv shape (rawStep shape s e) := by
  refine ⟨?_, ((keepsEnrichment_iff hinv e).mpr h).1⟩
  cases e with
  | sync now remoteId payload result => exact held_store hinv.held
  | refresh now remoteId item result => exact held_store hinv.held

end Events

/-- **When the enrichment survives.**  In every interleaving of row writes, the
payloads that were enriched stay so and refreshes leave unchanged orders alone
exactly when every write meets the condition. -/
theorem enrichment_kept_iff (shape : Shape ι) (raws : String → Option (RawPayload ι))
    (es : List (RawEvent ι)) :
    Along (rawStep shape) (KeepsEnrichment shape) (OrderRaws.start shape raws) es ↔
      Along (rawStep shape) (WritesEnriched shape) (OrderRaws.start shape raws) es := by
  have hstep : ∀ s e, RawsInv shape s → WritesEnriched shape s e →
      RawsInv shape (rawStep shape s e) := fun _ _ hinv h => rawsInv_step hinv h
  have hexact : ∀ s e, RawsInv shape s →
      (KeepsEnrichment shape s e ↔ WritesEnriched shape s e) := fun _ e hinv =>
    keepsEnrichment_iff hinv e
  exact along_iff_along hstep hexact (rawsInv_start shape raws) es

/-- An instant account order, enriched by its sync and then refreshed. -/
def refreshedAfterSync : List (RawEvent GameboostOrder) :=
  [.sync 1 "7" { id := "7", accountOfferId := "3", credentialEntries := some [⟨"7", "login"⟩] }
      (some (.ok .created)),
    .refresh 2 "7" { id := "7", accountOfferId := "3" } (.ok .updated)]

/-- The refresh replaces the enriched payload by the summary. -/
theorem enrichment_kept_fails :
    ¬Along (rawStep gameboostShape) (KeepsEnrichment gameboostShape)
      (OrderRaws.start gameboostShape fun _ => none) refreshedAfterSync := by
  intro h
  obtain ⟨raw, hraw, henriched⟩ := h.2.1.1 "7" rfl
  cases hraw
  cases henriched

/-! ### The runs are runs of row events -/

/-- The rows change by events of one kind only. -/
def WritesRows (kind : RawEvent ι → Prop) (raws raws' : String → Option (RawPayload ι)) : Prop :=
  ∃ es, (∀ e ∈ es, kind e) ∧
    ∀ shape held, (run (rawStep shape) ⟨raws, held⟩ es).raws = raws'

/-- What a refresh writes are summaries. -/
def IsRefresh : RawEvent ι → Prop
  | .refresh .. => True
  | .sync .. => False

/-- What a sync run writes was prepared. -/
def IsSync {δ : Type} (ses : Session ι δ) : RawEvent ι → Prop
  | .refresh .. => False
  | .sync _ _ payload _ => ∃ n item, ses.prepareItem n item = .item payload

section Refines

variable {δ : Type} {kind : RawEvent ι → Prop} {raws raws' raws'' : String → Option (RawPayload ι)}
variable {svc : Service ι} {ses : Session ι δ}

theorem WritesRows.refl (kind : RawEvent ι → Prop) (raws : String → Option (RawPayload ι)) :
    WritesRows kind raws raws :=
  ⟨[], fun _ h => absurd h List.not_mem_nil, fun _ _ => rfl⟩

theorem WritesRows.trans (h : WritesRows kind raws raws') (h' : WritesRows kind raws' raws'') :
    WritesRows kind raws raws'' := by
  obtain ⟨es, hes, hrun⟩ := h
  obtain ⟨es', hes', hrun'⟩ := h'
  refine ⟨es ++ es', List.forall_mem_append.mpr ⟨hes, hes'⟩, fun shape held => ?_⟩
  have hmid : run (rawStep shape) ⟨raws, held⟩ es
      = ⟨raws', (run (rawStep shape) ⟨raws, held⟩ es).held⟩ := by
    rw [← hrun shape held]
  rw [run_append, hmid]
  exact hrun' shape _

theorem refreshItem_writes (n : Nat) (r : Refresh ι δ) (item : ι) :
    WritesRows IsRefresh r.raws (refreshItem svc ses n r item).raws := by
  unfold refreshItem
  dsimp only
  by_cases hid : svc.extractRemoteId item = ""
  · rw [if_pos hid]
    exact WritesRows.refl ..
  · rw [if_neg hid]
    have hpayload := ingestRaw_payload r.now item (r.raws (svc.extractRemoteId item))
    refine ⟨[.refresh r.now (svc.extractRemoteId item) item
      ((ses.parseAndApply n item r.domain).1)], by simp [IsRefresh], fun shape held => ?_⟩
    show Function.update r.raws (svc.extractRemoteId item) (some (storeRaw ..)) = _
    unfold storeRaw
    by_cases hpending : (ingestRaw r.now item
        (r.raws (svc.extractRemoteId item))).parseStatus = .pending
    · simp only [hpending, if_true, tryParse, ne_eq, not_true_eq_false, if_false, hpayload]
    · simp only [hpending, if_false]

theorem refreshItems_writes (cutoff n : Nat) (items : List ι) (r : Refresh ι δ) :
    WritesRows IsRefresh r.raws (refreshItems svc ses cutoff n items r).1.raws := by
  induction items generalizing r with
  | nil => exact WritesRows.refl ..
  | cons item items ih =>
    rw [refreshItems]
    split
    · exact WritesRows.refl ..
    · exact (refreshItem_writes n r item).trans (ih _)

/-- **A refresh** is a run of refresh events. -/
theorem refreshPages_writes (cutoff pages n : Nat) (r : Refresh ι δ) :
    WritesRows IsRefresh r.raws (refreshPages svc ses cutoff pages n r).2.raws := by
  induction pages generalizing n r with
  | zero => exact WritesRows.refl ..
  | succ pages ih =>
    rw [refreshPages]
    dsimp only
    rcases ses.fetchPage n r.checkpoint with ⟨exc | ⟨items, nextCursor⟩, checkpoint⟩
    · exact WritesRows.refl ..
    · dsimp only
      split
      · exact WritesRows.refl ..
      · have hitems : WritesRows IsRefresh r.raws (refreshItems svc ses cutoff n items
            { r with now := r.now + ses.pause n, checkpoint }).1.raws :=
          refreshItems_writes cutoff n items
            { r with now := r.now + ses.pause n, checkpoint }
        generalize refreshItems svc ses cutoff n items
          { r with now := r.now + ses.pause n, checkpoint } = out at hitems ⊢
        split
        · exact hitems.trans (ih (n + 1)
            { out.1 with checkpoint := { out.1.checkpoint with cursor := nextCursor } })
        · exact hitems

theorem applyItem_writes {n : Nat} {item payload : ι} (now : Nat) (remoteId : String)
    (pg : Page ι δ) (h : ses.prepareItem n item = .item payload) :
    WritesRows (IsSync ses) pg.raws (applyItem svc ses now n remoteId payload pg).raws := by
  have hpayload := ingestRaw_payload now payload (pg.raws remoteId)
  refine ⟨[.sync now remoteId payload
    (if ses.phase = .ingest then none else some (ses.parseAndApply n payload pg.domain).1)],
    by simpa [IsSync] using ⟨n, item, h⟩, fun shape held => ?_⟩
  show Function.update pg.raws remoteId (some (storeRaw ..)) = _
  unfold applyItem storeRaw
  dsimp only
  by_cases hphase : ses.phase = .ingest
  · rw [if_pos hphase, if_pos hphase]
  · rw [if_neg hphase, if_neg hphase]
    dsimp only
    unfold tryParse
    by_cases hpending : (ingestRaw now payload (pg.raws remoteId)).parseStatus = .pending
    · rw [if_pos hpending, if_neg (by rw [hpending]; exact fun h => h rfl), hpayload]
    · rw [if_neg hpending, if_pos hpending]

theorem ingestItems_writes {isSeen : ι → Bool} {now n : Nat} (items : List ι) {pg pg' : Page ι δ}
    (h : ingestItems svc ses isSeen now n items pg = .ok pg') :
    WritesRows (IsSync ses) pg.raws pg'.raws := by
  induction items generalizing pg with
  | nil =>
    cases h
    exact WritesRows.refl ..
  | cons item items ih =>
    rw [ingestItems] at h
    split at h
    · cases h
      exact WritesRows.refl ..
    · rcases hitem : ingestItem svc ses now n pg item with e | pg₁
      · rw [hitem] at h
        cases h
      · rw [hitem] at h
        refine WritesRows.trans ?_ (ih h)
        unfold ingestItem at hitem
        rcases hid : validatedRemoteId svc item with e | remoteId
        · rw [hid] at hitem
          cases hitem
        · rw [hid] at hitem
          dsimp only at hitem
          split at hitem
          · cases hitem
            exact WritesRows.refl ..
          · rcases hprepare : ses.prepareItem n item with payload | - | message | exc <;>
              rw [hprepare] at hitem <;> cases hitem
            · exact applyItem_writes now remoteId { pg with
                first := pg.first.or (some (remoteId, svc.extractRemoteTimestamp item)) } hprepare
            · exact WritesRows.refl ..

theorem readPage_writes {start : SyncCheckpoint} {n : Nat} {items : List ι} {nextCursor : String}
    {l l' : Loop ι δ} {caughtUp : Bool}
    (h : readPage svc ses start n items nextCursor l = .ok (l', caughtUp)) :
    WritesRows (IsSync ses) l.raws l'.raws := by
  unfold readPage at h
  rcases hitems : ingestItems svc ses (seen svc start l.stopTimestamp) l.now n items
      { raws := l.raws, domain := l.domain, run := l.run, first := l.first } with e | pg
  · rw [hitems] at h
    cases h
  · rw [hitems] at h
    cases h
    exact ingestItems_writes items hitems

/-- **A sync run** is a run of sync events, those of its committed pages. -/
theorem fetchPages_writes (start : SyncCheckpoint) (calls n : Nat) (l : Loop ι δ) :
    WritesRows (IsSync ses) l.raws (fetchPages svc ses start calls n l).2.raws := by
  induction calls generalizing n l with
  | zero => exact WritesRows.refl ..
  | succ calls ih =>
    rw [fetchPages_succ]
    rcases ses.fetchPage n (l.beforeFetch (ses.pause n)).checkpoint with
      ⟨exc | ⟨items, nextCursor⟩, checkpoint⟩
    · exact WritesRows.refl ..
    · dsimp only
      split
      · unfold Loop.finish
        split <;> exact WritesRows.refl ..
      · rcases hpage : readPage svc ses start n items nextCursor
          { l.beforeFetch (ses.pause n) with checkpoint } with e | ⟨l', caughtUp⟩
        · exact WritesRows.refl ..
        · have hrows := readPage_writes hpage
          replace hrows : WritesRows (IsSync ses) l.raws l'.raws := hrows
          dsimp only
          split
          · unfold Loop.finish
            split <;> exact hrows
          · split
            · unfold Loop.finish
              split <;> exact hrows
            · exact hrows.trans (ih _ _)

end Refines

end Store

end Sda.Sync
