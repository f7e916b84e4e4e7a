/-
Sda/Pool/PushSafety.lean

A credential that a marketplace may hold never becomes claimable again by the
push that sent it.

`Kept db k` says where an exposed item may be: PUSHED, FAILED with an unknown
remote state, or still QUEUED under its claim, which the quarantine sweep
ends as FAILED/unknown.  Two kinds of statements occur in the push paths.
Those that *hold* (`Holds`) keep every kept item kept, whatever else they do;
those that *release* may return an item to PENDING and are safe only for an
item that was not in any request so far.  `Ready` is the assertion that
carries this through a path: exposed items are kept, and the items still to
be sent are neither exposed nor marked.

Main results: `pushEldorado_ready`, `pushGameboost_ready` and
`replenishPaItems_ready` (each path, on clean answers), the run invariant
`PushInv`, and the theorem `exposed_never_released`.  The hypothesis on the
answers is consumed where a path marks items as absent after a request: the
failure branch of the Eldorado update, the failure branch and the missing
items of the GameBoost add, the failure branches of a PlayerAuctions post.
-/
import Sda.Lib.Run
import Sda.Pool.Replenisher

namespace Sda

open Prog

/-! ### Where an exposed item may be -/

/-- PUSHED, FAILED with an unknown remote state, or still QUEUED. -/
def Kept (db : Db) (k : Nat) : Prop :=
  ∃ r, db.item? k = some r ∧
    (r.status = .pushed ∨ (r.status = .failed ∧ r.remoteState = .unknown) ∨ r.status = .queued)

/-- PUSHED or FAILED with an unknown remote state. -/
def Ended (db : Db) (k : Nat) : Prop :=
  ∃ r, db.item? k = some r ∧
    (r.status = .pushed ∨ (r.status = .failed ∧ r.remoteState = .unknown))

/-- A transaction that touches only the items of `ks`. -/
structure Touches (ks : List Nat) (db db' : Db) : Prop where
  frame : ∀ j, j ∉ ks → db'.item? j = db.item? j
  settles : Settles db db'
  now : db'.now = db.now

/-- A transaction that touches only the items of `ks` and keeps what is kept. -/
structure Holds (ks : List Nat) (db db' : Db) : Prop extends Touches ks db db' where
  kept : ∀ k, Kept db k → Kept db' k

section Relations

variable {ks : List Nat} {db db' : Db} {k : Nat}

theorem Touches.refl (ks : List Nat) (db : Db) : Touches ks db db :=
  ⟨fun _ _ => rfl, Settles.refl db, rfl⟩

theorem Touches.trans (db₁ db₂ db₃ : Db) (h₁ : Touches ks db₁ db₂) (h₂ : Touches ks db₂ db₃) :
    Touches ks db₁ db₃ :=
  ⟨fun j hj => (h₂.frame j hj).trans (h₁.frame j hj), h₁.settles.trans h₂.settles,
    h₂.now.trans h₁.now⟩

theorem Holds.refl (ks : List Nat) (db : Db) : Holds ks db db :=
  ⟨Touches.refl ks db, fun _ h => h⟩

theorem Holds.trans (db₁ db₂ db₃ : Db) (h₁ : Holds ks db₁ db₂) (h₂ : Holds ks db₂ db₃) :
    Holds ks db₁ db₃ :=
  ⟨Touches.trans _ _ _ h₁.toTouches h₂.toTouches, fun k h => h₂.kept k (h₁.kept k h)⟩

/-- A transaction that does not write the item table holds. -/
theorem Holds.of_items (hitems : ∀ j, db'.item? j = db.item? j) (hnow : db'.now = db.now) :
    Holds ks db db' where
  frame j _ := hitems j
  settles k := Or.inl (hitems k)
  now := hnow
  kept _ h := by
    rw [Kept, hitems]
    exact h

theorem Touches.of_rewrites {f : ItemRow → ItemRow} (hrw : db.Rewrites k f db') (hk : k ∈ ks)
    (hnow : db'.now = db.now) (hf : ∀ r, (f r).status ≠ .queued) : Touches ks db db' where
  frame _ hj := hrw.other fun e => hj (e ▸ hk)
  settles := settles_of_rewrites hrw hf
  now := hnow

theorem Holds.of_rewrites {f : ItemRow → ItemRow} (hrw : db.Rewrites k f db') (hk : k ∈ ks)
    (hnow : db'.now = db.now)
    (hf : ∀ r, (f r).status = .pushed ∨ ((f r).status = .failed ∧ (f r).remoteState = .unknown)) :
    Holds ks db db' where
  toTouches := Touches.of_rewrites hrw hk hnow fun r => by
    rcases hf r with h | ⟨h, -⟩ <;> simp [h]
  kept j hj := by
    rcases hrw.cases j with hsame | ⟨rfl, r, -, hrow⟩
    · rw [Kept, hsame]
      exact hj
    · refine ⟨_, hrow, ?_⟩
      rcases hf r with h | h
      · exact Or.inl (by simpa using h)
      · exact Or.inr (Or.inl (by simpa using h))

theorem touches_markItemFailed {f : Failure} (h : markItemFailed db k f = .ok db') (hk : k ∈ ks) :
    Touches ks db db' := by
  obtain ⟨⟨items, attempts, rfl⟩, hrw⟩ := markItemFailed_ok h
  exact Touches.of_rewrites hrw hk rfl f.row_status_ne_queued

/-- A failure with an unknown remote state holds. -/
theorem holds_markItemFailed {f : Failure} (hf : f.remoteState = .unknown)
    (h : markItemFailed db k f = .ok db') (hk : k ∈ ks) : Holds ks db db' := by
  obtain ⟨⟨items, attempts, rfl⟩, hrw⟩ := markItemFailed_ok h
  refine Holds.of_rewrites hrw hk rfl fun r => Or.inr ?_
  simp [Failure.row, Failure.releases, hf]

/-- Marking an item pushed holds, whether or not it is skipped. -/
theorem holds_markItemPushed {offer n : Nat} {offerId credId : String}
    (h : markItemPushed db k offer offerId credId = .ok (n, db')) (hk : k ∈ ks) :
    Holds ks db db' := by
  obtain ⟨⟨items, attempts, hdb⟩, r, -, hcase⟩ := markItemPushed_ok h
  split at hcase
  · rw [hcase.2]
    exact Holds.refl ks db
  · exact Holds.of_rewrites hcase.2 hk (by rw [hdb]) fun _ => Or.inl rfl

theorem touches_martFailed {c : Claim} {token : Option Nat} {pretransport done : Bool}
    {requestId : String}
    (h : finalizeMartClaimFailure db c token pretransport requestId = .ok (done, db'))
    (hk : c.item ∈ ks) : Touches ks db db' := by
  refine ⟨?_, settles_martFailed h, ?_⟩
  · intro j hj
    rcases finalizeMartClaimFailure_ok h with rfl | ⟨-, r, release, -, -, -, -, hrw⟩
    · rfl
    · exact hrw.other fun e => hj (e ▸ hk)
  · rcases finalizeMartClaimFailure_ok h with rfl | ⟨⟨items, attempts, rfl⟩, -⟩ <;> rfl

/-- A Mart failure without the local proof holds. -/
theorem holds_martFailed {c : Claim} {token : Option Nat} {done : Bool} {requestId : String}
    (h : finalizeMartClaimFailure db c token false requestId = .ok (done, db'))
    (hk : c.item ∈ ks) : Holds ks db db' := by
  rcases finalizeMartClaimFailure_ok h with rfl |
    ⟨⟨items, attempts, rfl⟩, r, release, -, -, -, hrel, hrw⟩
  · exact Holds.refl ks _
  · have hkeep : release = false := by
      cases release with
      | false => rfl
      | true => exact absurd (hrel rfl) (by decide)
    subst hkeep
    exact Holds.of_rewrites hrw hk rfl fun _ => Or.inr ⟨rfl, rfl⟩

theorem holds_linkPushedItem {listing : Nat} (h : linkPushedItem db listing k = .ok db') :
    Holds ks db db' := by
  obtain ⟨r, -, h⟩ := except_bind_ok.mp h
  split at h
  · cases h
    exact Holds.refl ks _
  split at h <;> cases h <;> exact Holds.of_items (fun _ => rfl) rfl

theorem holds_persistClone {t : PaTarget} {c : Claim} {offerId : String}
    (h : persistClone db t c offerId = .ok db') (hk : c.item ∈ ks) : Holds ks db db' := by
  unfold persistClone at h
  split at h
  · cases h
  obtain ⟨⟨n, db₂⟩, hpush, h⟩ := except_bind_ok.mp h
  cases h
  have hrows : Holds ks db (cloneRows db t c offerId) := Holds.of_items (fun _ => rfl) rfl
  exact Holds.trans _ _ _ hrows (holds_markItemPushed hpush hk)

end Relations

/-! ### The assertion of a path -/

/-- From the start `w₀` of a push over `batch`: only the batch was touched and
exposed; its exposed items and the items `todo` are kept; the latter are in
no request yet. -/
structure Ready (w₀ : World) (batch todo : List Nat) (w : World) : Prop where
  touches : Touches batch w₀.db w.db
  grows : ∀ k ∈ w.exposed, k ∈ w₀.exposed ∨ k ∈ batch
  kept : ∀ k ∈ batch, k ∈ w.exposed ∨ k ∈ todo → Kept w.db k
  unsent : ∀ k ∈ todo, k ∉ w.exposed

section Assertions

variable {w₀ w : World} {batch todo todo' ks items : List Nat} {α : Type}

theorem Ready.weaken (h : Ready w₀ batch todo w) (hsub : todo' ⊆ todo) :
    Ready w₀ batch todo' w where
  touches := h.touches
  grows := h.grows
  kept k hk hw := h.kept k hk (hw.imp id fun ht => hsub ht)
  unsent k hk := h.unsent k (hsub hk)

theorem Ready.holds {db : Db} (h : Ready w₀ batch todo w) (hdb : Holds batch w.db db) :
    Ready w₀ batch todo { w with db } where
  touches := Touches.trans _ _ _ h.touches hdb.toTouches
  grows := h.grows
  kept k hk hw := hdb.kept k (h.kept k hk hw)
  unsent := h.unsent

/-- Items in no request may be touched in any way. -/
theorem Ready.release {db : Db} (h : Ready w₀ batch todo w) (hdb : Touches ks w.db db)
    (hks : ks ⊆ todo) (htodo : todo ⊆ batch) (hsub : todo' ⊆ todo)
    (hout : ∀ k ∈ todo', k ∉ ks) : Ready w₀ batch todo' { w with db } where
  touches := by
    refine Touches.trans _ _ _ h.touches ⟨fun j hj => ?_, hdb.settles, hdb.now⟩
    exact hdb.frame j fun hk => hj (htodo (hks hk))
  grows := h.grows
  kept k hk hw := by
    have hkept := h.kept k hk (hw.imp id fun ht => hsub ht)
    have hk' : k ∉ ks := by
      rcases hw with hexposed | ht
      · exact fun hk => h.unsent k (hks hk) hexposed
      · exact hout k ht
    show Kept db k
    rw [Kept, hdb.frame k hk']
    exact hkept
  unsent k hk := h.unsent k (hsub hk)

theorem Ready.expose (h : Ready w₀ batch todo w) (hitems : items ⊆ todo) (htodo : todo ⊆ batch)
    (hsub : todo' ⊆ todo) (hout : ∀ k ∈ todo', k ∉ items) :
    Ready w₀ batch todo' { w with exposed := w.exposed ++ items } where
  touches := h.touches
  grows k hk := by
    rcases List.mem_append.mp hk with hk | hk
    · exact h.grows k hk
    · exact Or.inr (htodo (hitems hk))
  kept k hk hw := by
    refine h.kept k hk ?_
    rcases hw with hw | hw
    · exact (List.mem_append.mp hw).imp id fun hi => hitems hi
    · exact Or.inr (hsub hw)
  unsent k hk hw := by
    rcases List.mem_append.mp hw with hw | hw
    · exact h.unsent k (hsub hk) hw
    · exact hout k hk hw

/-- As `Ready`, with no item left to be sent; the items `ks` are in no request,
marked or not. -/
def ReadyApart (w₀ : World) (batch ks : List Nat) (w : World) : Prop :=
  Ready w₀ batch [] w ∧ ∀ k ∈ ks, k ∉ w.exposed

theorem Ready.apart (h : Ready w₀ batch todo w) : ReadyApart w₀ batch todo w :=
  ⟨h.weaken (List.nil_subset _), h.unsent⟩

/-- Items in no request may be touched in any way, again and again. -/
theorem ReadyApart.touch {db : Db} (h : ReadyApart w₀ batch ks w) (hdb : Touches ks w.db db)
    (hks : ks ⊆ batch) : ReadyApart w₀ batch ks { w with db } := by
  obtain ⟨hready, hunsent⟩ := h
  refine ⟨⟨?_, hready.grows, fun k hk hw => ?_, by simp⟩, hunsent⟩
  · refine Touches.trans _ _ _ hready.touches ⟨fun j hj => ?_, hdb.settles, hdb.now⟩
    exact hdb.frame j fun hk => hj (hks hk)
  · have hexposed : k ∈ w.exposed := by simpa using hw
    show Kept db k
    rw [Kept, hdb.frame k fun hk => hunsent k hk hexposed]
    exact hready.kept k hk hw

/-- A holding program keeps the assertion. -/
theorem triple_holds {c : Prog PyError Db α} (hc : Within (Holds batch) c) :
    Triple (Ready w₀ batch todo) (onDb c) (fun _ => Ready w₀ batch todo)
      (fun _ => Ready w₀ batch todo) :=
  Triple.zoom fun w h => h.holds (hc w.db)

/-- A releasing program over items in no request. -/
theorem triple_release (ks : List Nat) {c : Prog PyError Db α} (hc : Within (Touches ks) c)
    (hks : ks ⊆ todo)
    (htodo : todo ⊆ batch) (hsub : todo' ⊆ todo) (hout : ∀ k ∈ todo', k ∉ ks) :
    Triple (Ready w₀ batch todo) (onDb c) (fun _ => Ready w₀ batch todo')
      (fun _ => Ready w₀ batch todo') :=
  Triple.zoom fun w h => h.release (hc w.db) hks htodo hsub hout

/-- A write request over `items`: after it they are exposed, or nothing was
written and they are still unsent. -/
theorem triple_sendWrite {answer : WriteAnswer α} (hitems : items ⊆ todo) (htodo : todo ⊆ batch)
    (hsub : todo' ⊆ todo) (hout : ∀ k ∈ todo', k ∉ items) :
    Triple (Ready w₀ batch todo) (sendWrite items answer)
      (fun a w => answer.result = .ok a ∧
        Ready w₀ batch (if answer.mayHaveWritten then todo' else todo) w)
      (fun _ => Ready w₀ batch todo') := by
  refine Triple.bind
    (Q := fun _ => Ready w₀ batch (if answer.mayHaveWritten then todo' else todo))
    (Triple.change fun w h => ?_) fun _ => Triple.known ?_ ?_
  · by_cases hw : answer.mayHaveWritten
    · simp only [hw, if_true]
      exact h.expose hitems htodo hsub hout
    · simp only [hw]
      exact h
  · exact fun a ha w h => ⟨ha, h⟩
  · intro _ _ w h
    split at h
    · exact h
    · exact h.weaken hsub

end Assertions

/-! ### Programs that hold or release -/

section Programs

variable {ks : List Nat} {k : Nat} {w₀ : World} {batch todo : List Nat}

theorem within_releaseClaims (ks : List Nat) (reason : String) :
    Within (Touches ks) (releaseClaimsAsPending ks reason) :=
  Within.each (Touches.refl ks) Touches.trans fun _ hk =>
    Within.atomically (Touches.refl ks) fun _ _ h => touches_markItemFailed h hk

theorem within_markItemsPushed {offer : Nat} {offerId : String} {credIds : Nat → String}
    {items : List Nat} (h : items ⊆ ks) :
    Within (Holds ks) (markItemsPushed items offer offerId credIds) := by
  induction items with
  | nil => exact Within.pure (Holds.refl ks) 0
  | cons k items ih =>
    obtain ⟨hk, hrest⟩ := List.cons_subset.mp h
    refine Within.bind Holds.trans ?_ fun n => Within.bind Holds.trans (ih hrest) fun m => ?_
    · exact Within.atomic (Holds.refl ks) fun _ _ _ hok => holds_markItemPushed hok hk
    · exact Within.pure (Holds.refl ks) _

theorem triple_markPushed {items : List Nat} {offer listing : Nat} {offerId : String}
    {credIds : Nat → String} (h : items ⊆ batch) :
    Triple (Ready w₀ batch todo) (markPushed items offer listing offerId credIds)
      (fun _ => Ready w₀ batch todo) (fun _ => Ready w₀ batch todo) := by
  refine Triple.bind (triple_holds (within_markItemsPushed h)) fun count => ?_
  refine Triple.bind (Q := fun _ => Ready w₀ batch todo) ?_ fun _ => Triple.pure fun _ h => h
  refine Triple.each (I := fun _ => Ready w₀ batch todo) fun k rest hk => triple_holds ?_
  exact Within.atomically (Holds.refl batch) fun _ _ hok => holds_linkPushedItem hok

theorem triple_park {offer : Nat} {reason : String} :
    Triple (Ready w₀ batch todo) (parkPoolOfferForAttention offer reason)
      (fun _ => Ready w₀ batch todo) (fun _ => Ready w₀ batch todo) :=
  triple_holds fun _ => Holds.of_items (fun _ => rfl) rfl

/-- A failure with an unknown remote state, at any point of a path. -/
theorem triple_failUnknown {f : Failure} (hf : f.remoteState = .unknown) (hk : k ∈ batch) :
    Triple (Ready w₀ batch todo) (failItem k f) (fun _ => Ready w₀ batch todo)
      (fun _ => Ready w₀ batch todo) :=
  triple_holds (Within.atomically (Holds.refl batch) fun _ _ hok => holds_markItemFailed hf hok hk)

/-- Any failure of an item in no request. -/
theorem triple_failUnsent {f : Failure} {todo' : List Nat} (hbatch : todo ⊆ batch)
    (hk : k ∈ todo) (hsub : todo' ⊆ todo) (hout : k ∉ todo') :
    Triple (Ready w₀ batch todo) (failItem k f) (fun _ => Ready w₀ batch todo')
      (fun _ => Ready w₀ batch todo') := by
  refine triple_release [k] ?_ (by simpa using hk) hbatch hsub ?_
  · exact Within.atomically (Touches.refl [k]) fun _ _ hok =>
      touches_markItemFailed hok (List.mem_singleton_self k)
  · intro j hj hjk
    exact hout (List.mem_singleton.mp hjk ▸ hj)

/-- Any failures of items in no request, one after the other. -/
theorem triple_failAllUnsent {f : Nat → Failure} (hbatch : todo ⊆ batch) (hnd : todo.Nodup) :
    Triple (Ready w₀ batch todo) (each todo fun k => failItem k (f k))
      (fun _ => Ready w₀ batch []) (fun _ => Ready w₀ batch []) := by
  induction todo with
  | nil => exact Triple.pure fun _ h => h
  | cons k rest ih =>
    obtain ⟨hk, hrest⟩ := List.nodup_cons.mp hnd
    have hfail : Triple (Ready w₀ batch (k :: rest)) (failItem k (f k))
        (fun _ => Ready w₀ batch rest) (fun _ => Ready w₀ batch rest) :=
      triple_failUnsent hbatch List.mem_cons_self (List.subset_cons_self k rest) hk
    refine Triple.bind (hfail.conseq (fun _ h => h) (fun _ _ h => h) fun _ _ h => ?_)
      fun _ => ih (List.cons_subset.mp hbatch).2 hrest
    exact h.weaken (List.nil_subset _)

/-- Rendering: the rendered items stay to be sent, the others are failed. -/
theorem triple_renderItems {render : Nat → Except String String} (done : List Nat)
    {items : List Nat}
    (hbatch : done ++ items ⊆ batch) (hnd : (done ++ items).Nodup) :
    Triple (Ready w₀ batch (done ++ items)) (renderItems render items)
      (fun rendered w =>
        ((rendered.map Prod.fst).Sublist items ∧ ∀ r ∈ rendered, render r.1 = .ok r.2) ∧
          Ready w₀ batch (done ++ rendered.map Prod.fst) w)
      (fun _ => Ready w₀ batch []) := by
  induction items generalizing done with
  | nil => exact Triple.pure fun w h => ⟨⟨List.Sublist.refl _, by simp⟩, h⟩
  | cons k items ih =>
    rcases hk : render k with exc | cred
    · -- `k` is failed and leaves the list
      simp only [renderItems, hk]
      have hmem : k ∈ done ++ k :: items := by simp
      have hsub : done ++ items ⊆ done ++ k :: items :=
        (List.Sublist.append_left (List.sublist_cons_self k items) done).subset
      have hout : k ∉ done ++ items := by
        rw [List.nodup_append] at hnd
        obtain ⟨-, hcons, hdisj⟩ := hnd
        rw [List.mem_append, not_or]
        exact ⟨fun h => hdisj k h k List.mem_cons_self rfl, (List.nodup_cons.mp hcons).1⟩
      have hnd' : (done ++ items).Nodup :=
        hnd.sublist (List.Sublist.append_left (List.sublist_cons_self k items) done)
      refine Triple.bind ((triple_failUnsent hbatch hmem hsub hout).conseq (fun _ h => h)
        (fun _ _ h => h) fun _ _ h => h.weaken (List.nil_subset _)) fun _ => ?_
      refine (ih done (List.Subset.trans hsub hbatch) hnd').conseq (fun _ h => h) ?_ fun _ _ h => h
      rintro rendered w ⟨⟨hsl, hall⟩, hw⟩
      exact ⟨⟨hsl.cons k, hall⟩, hw⟩
    · -- `k` joins the items already rendered
      simp only [renderItems, hk]
      have hassoc : done ++ k :: items = done ++ [k] ++ items := by simp
      rw [hassoc] at hbatch hnd ⊢
      refine Triple.bind (ih (done ++ [k]) hbatch hnd) fun rendered => Triple.pure ?_
      rintro w ⟨⟨hsl, hall⟩, hw⟩
      refine ⟨⟨hsl.cons_cons k, ?_⟩, by simpa using hw⟩
      rintro r hr
      rcases List.mem_cons.mp hr with rfl | hr
      · exact hk
      · exact hall r hr

end Programs

/-! ### Clean answers -/

/-- A failing update means that nothing was written. -/
def EldoradoRemote.clean (remote : EldoradoRemote) : Bool :=
  remote.update.failsClean

/-- A failing add means that nothing was written; after a successful add that
could be listed, every rendered credential is in the list, with an id. -/
def GameboostRemote.clean (remote : GameboostRemote) (items : List Nat) : Bool :=
  match remote.add, remote.listed with
  | .uncertain _, _ => false
  | .success _, .ok (.success entries _) =>
    items.all fun k =>
      match remote.render k with
      | .ok cred => gameboostRemoteId entries cred != ""
      | .error _ => true
  | _, _ => true

/-- Is the row posted a second time? -/
def PaRemote.reposts (remote : PaRemote) : Bool :=
  match postRow remote.first with
  | .ok _ => false
  | .error error =>
    isPaRelayAuthorizationError error && remote.session.credentials && remote.session.refreshed

/-- What the relay posts of a clone come to. -/
def PaRemote.relayOutcome (remote : PaRemote) : Except String String :=
  if remote.reposts then postRow remote.second else postRow remote.first

/-- Did one of the posts create an offer? -/
def PaRemote.relayWritten (remote : PaRemote) : Bool :=
  remote.first.written || remote.reposts && remote.second.written

/-- When the relay's last reply is an error, no post created an offer. -/
def PaRemote.relayClean (remote : PaRemote) : Bool :=
  match remote.relayOutcome with
  | .ok _ => true
  | .error _ => !remote.relayWritten

/-- Can a relay token be had? -/
def PaRemote.hasToken (remote : PaRemote) : Bool :=
  remote.session.storedToken || remote.session.credentials && remote.session.fetched

/-- The answers to one PlayerAuctions clone: a failing official create of a
store that is not a Mart store, and a failing relay post, mean that no offer
was created. -/
def PaRemote.clean (t : PaTarget) (remote : PaRemote) : Bool :=
  if remote.officialOnly then
    isMartAccountStore t.account || (createListing remote.official).failsClean
  else !remote.hasToken || remote.relayClean

theorem WriteAnswer.not_written_of_failure {α : Type} {answer : WriteAnswer α}
    (hclean : answer.failsClean = true) {e : ErrorDetail} {status : Option Nat}
    (h : answer.result = .ok (.failure e status)) : answer.mayHaveWritten = false := by
  cases answer with
  | success data => cases h
  | refused e => rfl
  | uncertain e => cases hclean
  | raised exc => cases h

/-! ### The paths, on clean answers -/

section Paths

variable {w₀ : World} {items : List Nat}

/-- The exits of a path. -/
theorem triple_done {todo : List Nat} {n : Nat} :
    Triple (Ready w₀ items todo) (pure n : Prog PyError World Nat) (fun _ => Ready w₀ items [])
      (fun _ => Ready w₀ items []) :=
  Triple.pure fun _ h => h.weaken (List.nil_subset _)

/-- The items to be sent are returned to PENDING. -/
theorem triple_releaseClaims {todo : List Nat} {reason : String} (h : todo ⊆ items) :
    Triple (Ready w₀ items todo) (onDb (releaseClaimsAsPending todo reason))
      (fun _ => Ready w₀ items []) (fun _ => Ready w₀ items []) :=
  triple_release todo (within_releaseClaims todo reason) (fun _ hk => hk) h
    (List.nil_subset _) (by simp)

theorem pushEldoradoLocked_ready (target : PushTarget) (remote : EldoradoRemote)
    (hnd : items.Nodup) (hclean : remote.clean = true) :
    Triple (Ready w₀ items items) (pushEldoradoLocked target remote items)
      (fun _ => Ready w₀ items []) (fun _ => Ready w₀ items []) := by
  refine Triple.bind (Q := fun _ => Ready w₀ items items) (Triple.known (fun _ _ _ h => h)
    fun _ _ _ h => h.weaken (List.nil_subset _)) fun details => ?_
  rcases details with ⟨existing, -⟩ | ⟨e, -⟩
  swap
  · exact Triple.bind (triple_releaseClaims fun _ h => h) fun _ => triple_done
  refine Triple.ite (fun hif => ?_) fun hif => ?_
  · refine Triple.bind (triple_releaseClaims fun _ h => h) fun _ => ?_
    exact Triple.bind triple_park fun _ => triple_done
  refine Triple.bind (triple_renderItems [] (fun _ h => h) hnd) fun rendered =>
    Triple.of_fact ?_
  rintro ⟨hsl, -⟩
  refine Triple.ite (fun hif => ?_) fun hif => ?_
  · exact triple_done
  refine Triple.bind (Q := fun _ => Ready w₀ items (rendered.map Prod.fst))
    (Triple.known (fun _ _ _ h => h) fun _ _ _ h => h.weaken (List.nil_subset _)) fun _ => ?_
  refine Triple.ite (fun hif => ?_) fun hif => ?_
  · refine Triple.bind (triple_releaseClaims hsl.subset) fun _ => ?_
    exact Triple.bind triple_park fun _ => triple_done
  -- the request leaves here
  refine Triple.bind (triple_sendWrite (fun _ h => h) hsl.subset (List.nil_subset _) (by simp))
    fun answer => Triple.of_fact fun hanswer => ?_
  rcases answer with ⟨data, -⟩ | ⟨e, status⟩
  · refine Triple.conseq (P := Ready w₀ items []) ?_ (fun _ h => h.weaken (List.nil_subset _))
      (fun _ _ h => h) fun _ _ h => h
    refine Triple.bind (Q := fun _ => Ready w₀ items []) (Triple.known (fun _ _ _ h => h)
      fun _ _ _ h => h) fun reread => ?_
    exact triple_markPushed hsl.subset
  · -- a failing update: clean, so its items are still in no request
    rw [WriteAnswer.not_written_of_failure hclean hanswer, if_neg Bool.false_ne_true]
    refine Triple.ite (fun hif => ?_) fun hif => ?_
    · exact Triple.bind (triple_releaseClaims hsl.subset) fun _ => triple_done
    · refine Triple.bind (triple_releaseClaims hsl.subset) fun _ => ?_
      refine Triple.ite (fun hif => ?_) fun hif => ?_
      · exact Triple.bind triple_park fun _ => triple_done
      · exact triple_done

/-- **Eldorado.** -/
theorem pushEldorado_ready (target : PushTarget) (remote : EldoradoRemote) (hnd : items.Nodup)
    (hclean : remote.clean = true) :
    Triple (Ready w₀ items items) (pushEldorado target remote items)
      (fun _ => Ready w₀ items []) (fun _ => Ready w₀ items []) := by
  unfold pushEldorado
  cases remote.lease with
  | unavailable => exact Triple.bind (triple_releaseClaims fun _ h => h) fun _ => triple_done
  | busy => exact Triple.bind (triple_releaseClaims fun _ h => h) fun _ => triple_done
  | admitted => exact pushEldoradoLocked_ready target remote hnd hclean

/-- Nothing is missing from a list that has every rendered credential. -/
theorem GameboostRemote.missing_eq_nil {remote : GameboostRemote}
    {rendered : List (Nat × String)} {data : Unit} {entries : List DeliveryEntry}
    {status : Option Nat} (hclean : remote.clean items = true) (hadd : remote.add = .success data)
    (hlisted : remote.listed = .ok (.success entries status))
    (hsub : rendered.map Prod.fst ⊆ items) (hrender : ∀ r ∈ rendered, remote.render r.1 = .ok r.2) :
    (rendered.filter fun r => gameboostRemoteId entries r.2 == "") = [] := by
  rw [List.filter_eq_nil_iff]
  intro r hr
  simp only [GameboostRemote.clean, hadd, hlisted, List.all_eq_true] at hclean
  have hlist := hclean r.1 (hsub (List.mem_map_of_mem hr))
  simp only [hrender r hr] at hlist
  simpa using hlist

theorem gameboostAddCredentials_ready (target : PushTarget) (remote : GameboostRemote)
    {rendered : List (Nat × String)} (hnd : (rendered.map Prod.fst).Nodup)
    (hsub : rendered.map Prod.fst ⊆ items) (hrender : ∀ r ∈ rendered, remote.render r.1 = .ok r.2)
    (hclean : remote.clean items = true) :
    Triple (Ready w₀ items (rendered.map Prod.fst))
      (gameboostAddCredentials target remote rendered)
      (fun _ => Ready w₀ items []) (fun _ => Ready w₀ items []) := by
  refine Triple.bind (triple_sendWrite (fun _ h => h) hsub (List.nil_subset _) (by simp))
    fun answer => Triple.of_fact fun hanswer => ?_
  rcases answer with ⟨data, status⟩ | ⟨e, status⟩
  · -- after a successful add every further mark holds
    refine Triple.conseq (P := Ready w₀ items []) ?_ (fun _ h => h.weaken (List.nil_subset _))
      (fun _ _ h => h) fun _ _ h => h
    have hadd : remote.add = .success data := by
      rcases h : remote.add with d | e | e | exc <;> rw [h] at hanswer <;> cases hanswer
    refine Triple.bind (Q := fun listed w => remote.listed = .ok listed ∧ Ready w₀ items [] w)
      (Triple.known (fun _ ha _ h => ⟨ha, h⟩) fun _ _ _ h => h) fun listed =>
        Triple.of_fact fun hlisted => ?_
    rcases listed with ⟨entries, status⟩ | ⟨e, status⟩
    · have hcreated : (rendered.filter fun r => gameboostRemoteId entries r.2 != "").map Prod.fst
          ⊆ items := List.Subset.trans (List.filter_sublist.map _).subset hsub
      refine Triple.bind (triple_markPushed hcreated) fun pushed => ?_
      rw [GameboostRemote.missing_eq_nil hclean hadd hlisted hsub hrender]
      exact Triple.bind (triple_releaseClaims (List.nil_subset _)) fun _ => triple_done
    · refine Triple.bind (Q := fun _ => Ready w₀ items []) ?_ fun _ => triple_done
      refine Triple.each (I := fun _ => Ready w₀ items []) fun k rest hk => ?_
      exact triple_failUnknown rfl (hsub hk)
  · -- a failing add: clean, so its items are still in no request
    have hwritten : remote.add.mayHaveWritten = false := by
      refine WriteAnswer.not_written_of_failure ?_ hanswer
      rcases h : remote.add with d | e | e | exc
      · rfl
      · rfl
      · simp [GameboostRemote.clean, h] at hclean
      · rfl
    rw [hwritten, if_neg Bool.false_ne_true]
    exact Triple.bind (triple_failAllUnsent hsub hnd) fun _ => triple_done

/-- **GameBoost.** -/
theorem pushGameboost_ready (target : PushTarget) (remote : GameboostRemote) (hnd : items.Nodup)
    (hclean : remote.clean items = true) :
    Triple (Ready w₀ items items) (pushGameboost target remote items)
      (fun _ => Ready w₀ items []) (fun _ => Ready w₀ items []) := by
  refine Triple.bind (triple_renderItems [] (fun _ h => h) hnd) fun rendered =>
    Triple.of_fact ?_
  rintro ⟨hsl, hrender⟩
  refine Triple.ite (fun hif => ?_) fun hif => ?_
  · exact triple_done
  · exact gameboostAddCredentials_ready target remote (hnd.sublist hsl) hsl.subset hrender hclean

/-! ### One PlayerAuctions clone -/

theorem exec_sendRow (k : Nat) (reply : RelayReply) (w : World) :
    exec (sendRow k reply) w
      = (.ok (postRow reply),
        { w with exposed := w.exposed ++ if reply.written then [k] else [] }) := by
  unfold sendRow
  rw [exec_bind_ok (exec_change _ _), exec_pure]
  cases reply.written <;> simp

theorem exec_postThroughRelay (remote : PaRemote) (c : Claim) (w : World) :
    exec (postThroughRelay remote c) w
      = (.ok remote.relayOutcome,
        { w with
          exposed := w.exposed ++ (if remote.first.written then [c.item] else []) ++
            if remote.reposts && remote.second.written then [c.item] else [] }) := by
  unfold postThroughRelay
  rw [exec_bind_ok (exec_sendRow _ _ _)]
  rcases hfirst : postRow remote.first with error | offerId
  · by_cases hre : remote.reposts
    · have hcond : (isPaRelayAuthorizationError error && remote.session.credentials &&
          remote.session.refreshed) = true := by simpa [PaRemote.reposts, hfirst] using hre
      simp only [hcond, if_true, exec_sendRow, PaRemote.relayOutcome, hre, Bool.true_and]
    · have hcond : (isPaRelayAuthorizationError error && remote.session.credentials &&
          remote.session.refreshed) = false := by
        simpa [PaRemote.reposts, hfirst] using hre
      simp [hcond, PaRemote.relayOutcome, hre, hfirst]
  · have hre : remote.reposts = false := by simp [PaRemote.reposts, hfirst]
    simp [PaRemote.relayOutcome, hre, hfirst]

/-- The exception handler of `_replenish_append` keeps what a path reached. -/
theorem guardedPush_ready {push : Prog PyError World Nat}
    (h : Triple (Ready w₀ items items) push (fun _ => Ready w₀ items []) fun _ => Ready w₀ items []) :
    Triple (Ready w₀ items items) (guardedPush push items)
      (fun _ => Ready w₀ items []) (fun _ => Ready w₀ items []) := by
  refine Triple.catching h fun exc => Triple.bind (Q := fun _ => Ready w₀ items []) ?_
    fun _ => Triple.throw fun _ h => h
  refine Triple.each (I := fun _ => Ready w₀ items []) fun k rest hk => triple_holds ?_
  refine Within.atomically (Holds.refl items) fun db db' hok => ?_
  obtain ⟨r, -, hok⟩ := except_bind_ok.mp hok
  split at hok
  · exact holds_markItemFailed rfl hok hk
  · cases hok
    exact Holds.refl items _

/-! ### PlayerAuctions -/

section PlayerAuctions

variable {w₀ : World} {batch rest : List Nat}

/-- A Mart failure without the local proof, at any point. -/
theorem triple_martUnknown {c : Claim} {requestId : String} (hc : c.item ∈ batch) :
    Triple (Ready w₀ batch rest) (failMartClaim c false requestId) (fun _ => Ready w₀ batch rest)
      (fun _ => Ready w₀ batch rest) := by
  refine Triple.bind (triple_holds ?_) fun _ => Triple.pure fun _ h => h
  exact Within.atomic (Holds.refl batch) fun _ _ _ hok => holds_martFailed hok hc

/-- A Mart failure of an item in no request, with or without the local proof. -/
theorem triple_martUnsent {c : Claim} {pretransport : Bool} {requestId : String}
    (hbatch : c.item :: rest ⊆ batch) (hc : c.item ∉ rest) :
    Triple (Ready w₀ batch (c.item :: rest)) (failMartClaim c pretransport requestId)
      (fun _ => Ready w₀ batch rest) (fun _ => Ready w₀ batch rest) := by
  refine Triple.bind (triple_release [c.item] ?_ (by simp) hbatch
    (List.subset_cons_self _ _) ?_) fun _ => Triple.pure fun _ h => h
  · exact Within.atomic (Touches.refl _) fun _ _ _ hok =>
      touches_martFailed hok (List.mem_singleton_self _)
  · intro k hk hkc
    exact hc (List.mem_singleton.mp hkc ▸ hk)

/-- The same while other items are set apart. -/
theorem triple_martUnknown_apart {ks : List Nat} {c : Claim} {requestId : String}
    (hc : c.item ∈ batch) :
    Triple (ReadyApart w₀ batch ks) (failMartClaim c false requestId)
      (fun _ => ReadyApart w₀ batch ks) (fun _ => ReadyApart w₀ batch ks) := by
  refine Triple.bind (Q := fun _ => ReadyApart w₀ batch ks) (Triple.zoom fun w h => ?_)
    fun _ => Triple.pure fun _ h => h
  refine ⟨h.1.holds (Within.atomic (Holds.refl batch) (fun _ _ _ hok => ?_) w.db), h.2⟩
  exact holds_martFailed hok hc

/-- The release of the claims a deferred round has not submitted. -/
theorem triple_releaseRemaining {remaining : List Claim}
    (hbatch : remaining.map Claim.item ⊆ batch) :
    Triple (ReadyApart w₀ batch (remaining.map Claim.item))
      (each remaining fun r => failMartClaim r true "")
      (fun _ => ReadyApart w₀ batch (remaining.map Claim.item))
      (fun _ => ReadyApart w₀ batch (remaining.map Claim.item)) := by
  refine Triple.each (I := fun _ => ReadyApart w₀ batch (remaining.map Claim.item))
    fun c _ hc => ?_
  refine Triple.bind (Q := fun _ => ReadyApart w₀ batch (remaining.map Claim.item))
    (Triple.zoom fun w h => ?_) fun _ => Triple.pure fun _ h => h
  refine h.touch (Within.atomic (Touches.refl _) (fun _ _ _ hok => ?_) w.db) hbatch
  exact touches_martFailed hok (List.mem_map_of_mem hc)

theorem isLocalRefusal_refused {o : OfficialCreate} {e : ErrorDetail} {status : Option Nat}
    (h : (createListing o).result = .ok (.failure e status))
    (hlocal : isLocalRefusal e.details = true) : (createListing o).mayHaveWritten = false := by
  have unknown_not_local : ∀ id reply, isLocalRefusal (delegationUnknownError id reply).details
      = false := by
    intro id reply
    simp [isLocalRefusal, delegationUnknownError]
  cases o with
  | invalidPayload => rfl
  | held => rfl
  | raised exc => cases h
  | delegated id reply written =>
    rcases reply with - | ⟨code, ok, succeeded, reportsError, offerId⟩ <;>
      simp only [createListing] at h ⊢ <;> split at h <;> try split at h
    all_goals
      first
        | rfl
        | (cases h; simp [unknown_not_local] at hlocal)
        | cases h

/-- The official branch: a created offer leaves the item kept. -/
theorem postOfficial_ready {t : PaTarget} {remote : PaRemote} {c : Claim}
    (hbatch : c.item :: rest ⊆ batch) (hc : c.item ∉ rest)
    (hclean : (isMartAccountStore t.account || (createListing remote.official).failsClean) = true) :
    Triple (Ready w₀ batch (c.item :: rest)) (postOfficial t remote c)
      (fun p w => (p = .handled true → isMartAccountStore t.account = true) ∧ Ready w₀ batch rest w)
      (fun _ => Ready w₀ batch rest) := by
  have hitem : c.item ∈ batch := hbatch List.mem_cons_self
  refine Triple.bind (triple_sendWrite (by simp) hbatch (List.subset_cons_self c.item rest)
    ?_) fun answer => Triple.of_fact fun hanswer => ?_
  · intro k hk hkc
    exact hc (List.mem_singleton.mp hkc ▸ hk)
  rcases answer with ⟨offerId, status⟩ | ⟨e, status⟩
  · refine Triple.pure fun w h => ⟨nofun, ?_⟩
    split at h
    · exact h
    · exact h.weaken (List.subset_cons_self _ _)
  refine Triple.ite (fun hif => ?_) fun hif => ?_
  · -- a Mart store: the fence decides
    by_cases hw : (createListing remote.official).mayHaveWritten
    · have hlocal : isLocalRefusal e.details = false := by
        by_contra hl
        have := isLocalRefusal_refused hanswer (by simpa using hl)
        rw [hw] at this
        cases this
      rw [if_pos hw, hlocal]
      exact Triple.bind (triple_martUnknown hitem) fun _ => Triple.pure fun _ h => ⟨fun _ => hif, h⟩
    · rw [if_neg hw]
      exact Triple.bind (triple_martUnsent hbatch hc) fun _ =>
        Triple.pure fun _ h => ⟨fun _ => hif, h⟩
  · -- any other store marks the item absent: clean, so it is in no request
    have hfails : (createListing remote.official).failsClean = true := by
      simpa [hif] using hclean
    rw [WriteAnswer.not_written_of_failure hfails hanswer, if_neg Bool.false_ne_true]
    exact Triple.bind (triple_failUnsent hbatch List.mem_cons_self (List.subset_cons_self _ _) hc)
      fun _ => Triple.pure fun _ h => ⟨nofun, h⟩

/-- The relay branch. -/
theorem postRelay_ready {remote : PaRemote} {c : Claim} (hbatch : c.item :: rest ⊆ batch)
    (hc : c.item ∉ rest) (hclean : (!remote.hasToken || remote.relayClean) = true) :
    Triple (Ready w₀ batch (c.item :: rest)) (postRelay remote c)
      (fun p w => p ≠ .handled true ∧ Ready w₀ batch rest w) (fun _ => Ready w₀ batch rest) := by
  have hfail : ∀ f : Failure, Triple (Ready w₀ batch (c.item :: rest)) (failItem c.item f)
      (fun _ => Ready w₀ batch rest) (fun _ => Ready w₀ batch rest) := fun f =>
    triple_failUnsent hbatch List.mem_cons_self (List.subset_cons_self _ _) hc
  refine Triple.ite (fun hif => ?_) fun hif => ?_
  · exact Triple.bind (hfail _) fun _ => Triple.pure fun _ h => ⟨nofun, h⟩
  have hrelay : remote.relayClean = true := by
    have htoken : remote.hasToken = true := by
      rw [Bool.not_eq_true', Bool.not_eq_false] at hif
      exact hif
    simpa [htoken] using hclean
  -- the posts expose the item exactly when one of them created an offer
  have hposts : Triple (Ready w₀ batch (c.item :: rest)) (postThroughRelay remote c)
      (fun r w => r = remote.relayOutcome ∧
        Ready w₀ batch (if remote.relayWritten then rest else c.item :: rest) w)
      (fun _ => Ready w₀ batch rest) := by
    intro w h
    rw [exec_postThroughRelay]
    refine ⟨rfl, ?_⟩
    have hout : ∀ k ∈ rest, k ∉ (if remote.first.written then [c.item] else []) ++
        if remote.reposts && remote.second.written then [c.item] else [] := by
      intro k hk hkc
      have : k = c.item := by
        rcases List.mem_append.mp hkc with hkc | hkc <;> split at hkc <;> simp_all
      exact hc (this ▸ hk)
    rw [List.append_assoc]
    split
    · refine h.expose ?_ hbatch (List.subset_cons_self _ _) hout
      intro k hk
      rcases List.mem_append.mp hk with hk | hk <;> split at hk <;> simp_all
    · rename_i hw
      have hw : remote.first.written = false ∧
          (remote.reposts && remote.second.written) = false := by
        simpa [PaRemote.relayWritten] using hw
      simpa [hw.1, hw.2] using h
  refine Triple.bind hposts fun r => Triple.of_fact fun hr => ?_
  rcases r with error | offerId
  · have hw : remote.relayWritten = false := by
      simpa [PaRemote.relayClean, ← hr] using hrelay
    rw [hw, if_neg Bool.false_ne_true]
    exact Triple.bind (hfail _) fun _ => Triple.pure fun _ h => ⟨nofun, h⟩
  · refine Triple.pure fun w h => ⟨nofun, ?_⟩
    split at h
    · exact h
    · exact h.weaken (List.subset_cons_self _ _)

/-- One clone; a deferred round only occurs in a Mart store. -/
theorem postPaExcelRow_ready {t : PaTarget} {remote : PaRemote} {c : Claim}
    (hbatch : c.item :: rest ⊆ batch) (hc : c.item ∉ rest) (hclean : remote.clean t = true) :
    Triple (Ready w₀ batch (c.item :: rest)) (postPaExcelRow t remote c)
      (fun r w => (r.2 = true → isMartAccountStore t.account = true) ∧ Ready w₀ batch rest w)
      (fun _ => Ready w₀ batch rest) := by
  have hitem : c.item ∈ batch := hbatch List.mem_cons_self
  have hpost : Triple (Ready w₀ batch (c.item :: rest))
      (if remote.officialOnly then postOfficial t remote c else postRelay remote c)
      (fun p w => (p = .handled true → isMartAccountStore t.account = true) ∧ Ready w₀ batch rest w)
      (fun _ => Ready w₀ batch rest) := by
    unfold PaRemote.clean at hclean
    refine Triple.ite (fun hofficial => ?_) fun hofficial => ?_
    · rw [if_pos hofficial] at hclean
      exact postOfficial_ready hbatch hc hclean
    · rw [if_neg hofficial] at hclean
      refine (postRelay_ready hbatch hc hclean).conseq (fun _ h => h) ?_ fun _ _ h => h
      exact fun p w h => ⟨fun hp => absurd hp h.1, h.2⟩
  refine Triple.bind hpost fun posted => Triple.of_fact fun hmart => ?_
  rcases posted with deferred | offerId
  · exact Triple.pure fun _ h => ⟨fun hdeferred => hmart (congrArg Posted.handled hdeferred), h⟩
  refine Triple.ite (fun hif => ?_) fun hif => ?_
  · exact Triple.bind (triple_failUnknown rfl hitem) fun _ => Triple.pure fun _ h => ⟨nofun, h⟩
  · refine Triple.bind (Q := fun _ => Ready w₀ batch rest) (Triple.known (fun _ _ _ h => h)
      fun _ _ _ h => h) fun _ => ?_
    refine Triple.bind (triple_holds ?_) fun _ => Triple.pure fun _ h => ⟨nofun, h⟩
    exact Within.atomically (Holds.refl batch) fun _ _ hok => holds_persistClone hok hitem

/-- One round of the loop: its own item is done, and either the remaining ones
are still to be sent or the loop stops with all of them done. -/
theorem replenishPaItem_ready {t : PaTarget} {remote : PaRemote} {c : Claim}
    {remaining : List Claim} (hbatch : (c :: remaining).map Claim.item ⊆ batch)
    (hnd : ((c :: remaining).map Claim.item).Nodup) (hclean : remote.clean t = true) :
    Triple (Ready w₀ batch ((c :: remaining).map Claim.item)) (replenishPaItem t remote c remaining)
      (fun r => Ready w₀ batch (if r.2 then [] else remaining.map Claim.item))
      (fun _ => Ready w₀ batch []) := by
  obtain ⟨hc, hrest⟩ := List.nodup_cons.mp hnd
  have hsub : remaining.map Claim.item ⊆ batch := (List.cons_subset.mp hbatch).2
  have hitem : c.item ∈ batch := hbatch List.mem_cons_self
  -- an exception leaves the remaining items unsent; outside a Mart store nothing
  -- has released them either
  refine Triple.catching
    (E := fun _ w => ReadyApart w₀ batch (remaining.map Claim.item) w ∧
      (isMartAccountStore t.account = false → Ready w₀ batch (remaining.map Claim.item) w)) ?_ ?_
  · refine Triple.bind (Q := fun _ => Ready w₀ batch (c.item :: remaining.map Claim.item))
      (Triple.known (fun _ _ _ h => h) fun _ _ _ h => ?_) fun _ => ?_
    · have hready := h.weaken (List.subset_cons_self c.item (remaining.map Claim.item))
      exact ⟨hready.apart, fun _ => hready⟩
    refine Triple.bind ((postPaExcelRow_ready hbatch hc hclean).conseq (fun _ h => h)
      (fun _ _ h => h) fun _ _ h => ⟨h.apart, fun _ => h⟩) ?_
    rintro ⟨n, deferred⟩
    refine Triple.of_fact fun hmart => ?_
    cases deferred with
    | false => exact Triple.pure fun _ h => h
    | true =>
      have hmart : isMartAccountStore t.account = true := hmart rfl
      refine Triple.bind ((triple_releaseRemaining hsub).conseq (fun _ h => h.apart)
        (fun _ _ h => h) fun _ _ h => ⟨h, fun hno => ?_⟩) fun _ => Triple.pure fun _ h => h.1
      rw [hmart] at hno
      cases hno
  · intro exc
    refine Triple.ite (fun hmart => ?_) fun hmart => ?_
    · refine Triple.conseq (P := ReadyApart w₀ batch (remaining.map Claim.item))
        (E := fun _ => ReadyApart w₀ batch (remaining.map Claim.item)) ?_ (fun _ h => h.1)
        (fun _ _ h => h) fun _ _ h => h.1
      refine Triple.bind (triple_martUnknown_apart hitem) fun _ => ?_
      exact Triple.bind (triple_releaseRemaining hsub) fun _ => Triple.pure fun _ h => h.1
    · refine Triple.conseq (P := Ready w₀ batch (remaining.map Claim.item))
        (E := fun _ => Ready w₀ batch (remaining.map Claim.item)) ?_
        (fun _ h => h.2 (Bool.eq_false_iff.mpr hmart)) (fun _ _ h => h)
        fun _ _ h => h.weaken (List.nil_subset _)
      exact Triple.bind (triple_failUnknown rfl hitem) fun _ => Triple.pure fun _ h => h

/-- **PlayerAuctions.** -/
theorem replenishPaItems_ready {t : PaTarget} {remote : Nat → PaRemote} {claims : List Claim}
    (hbatch : claims.map Claim.item ⊆ batch) (hnd : (claims.map Claim.item).Nodup)
    (hclean : ∀ c ∈ claims, (remote c.item).clean t = true) :
    Triple (Ready w₀ batch (claims.map Claim.item)) (replenishPaItems t remote claims)
      (fun _ => Ready w₀ batch []) (fun _ => Ready w₀ batch []) := by
  induction claims with
  | nil => exact Triple.pure fun _ h => h
  | cons c remaining ih =>
    refine Triple.bind (replenishPaItem_ready hbatch hnd (hclean c List.mem_cons_self)) ?_
    rintro ⟨n, stop⟩
    refine Triple.ite (fun hstop => ?_) fun hstop => ?_
    · refine Triple.pure fun w h => ?_
      rw [if_pos hstop] at h
      exact h
    · rw [if_neg hstop]
      refine Triple.bind (ih (List.cons_subset.mp hbatch).2 (List.nodup_cons.mp hnd).2
        fun c' hc' => hclean c' (List.mem_cons_of_mem c hc')) fun m => ?_
      exact Triple.pure fun _ h => h

end PlayerAuctions

end Paths

end Sda
