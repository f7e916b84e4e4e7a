/-
Sda/Renewal/MartOnce.lean

A Mart renewal is called for at most once, and changes all three ids or none.

The attempts are the claims of `Sda.Lib.Claim`, the calls the acts.  `Guar` says
what a transaction of one run may do: it respects the attempts of the other
runs, calls only for an attempt the run holds and has not called for, keeps at
most one attempt of a listing unresolved (`Fenced`), and either leaves the ids of
listings, clones and items as they are or moves those of one listing, its one
clone and its item to the verified id.
-/
import Sda.Lib.Claim
import Sda.Renewal.MartRun

namespace Sda.Mart

variable {lib : Library} {runs : List Run} {i j k : Nat} {x : Call} {s s' : Books} {r : Run}
  {w : World} {ctx : Context} {lead : Int} {a : Obj Attempt} {fingerprint : List Nat}

/-! ### What the checks establish -/

theorem refuseIf_ok {refused : Bool} {code : String} {u : Unit}
    (h : refuseIf refused code = .ok u) : refused = false := by
  rw [refuseIf] at h
  split at h
  · cases h
  · next hr => exact eq_false_of_ne_true hr

theorem getRow_ok {α : Type} {row : Option α} {b : α} (h : getRow row = .ok b) :
    row = some b := by
  cases row with
  | none => cases h
  | some c =>
    cases h
    rfl

/-- The listing `k`, its clone `c` and its item `t` all carry the offer id `id`. -/
structure Bound (s : Books) (k c t : Nat) (id : String) : Prop where
  listing : ∃ l, s.listings.get? k = some l ∧ l.storeListingId = id
  clone : ∃ o, s.activeOffers.get? c = some o ∧ o.status = .active ∧ o.listing = some k ∧
    o.poolItem = some t ∧ o.storeListingId = id
  item : ∃ o, s.items.get? t = some o ∧ o.targetOfferId = id

/-- What `_lock_context` returns: linked rows that carry one offer id. -/
structure Locked (s : Books) (listingId : Nat) (ctx : Context) : Prop where
  pk : ctx.listing.pk = listingId
  listing : s.listings.get? listingId = some ctx.listing.row
  clone : s.activeOffers.get? ctx.clone.pk = some ctx.clone.row
  active : ctx.clone.row.status = .active
  cloneListing : ctx.clone.row.listing = some listingId
  onlyClone : ∀ j o, s.activeOffers.get? j = some o → o.listing = some listingId →
    o.status = .active → j = ctx.clone.pk
  item : s.items.get? ctx.item.pk = some ctx.item.row
  cloneItem : ctx.clone.row.poolItem = some ctx.item.pk
  product : ctx.item.row.ownedProduct = ctx.product.pk
  cloneId : ctx.clone.row.storeListingId = ctx.listing.row.storeListingId
  itemId : ctx.item.row.targetOfferId = ctx.listing.row.storeListingId

theorem activeClone_ok {listingId : Nat} {clone : Obj OfferPoolActiveOffer}
    (h : activeClone s listingId = .ok clone) :
    s.activeOffers.get? clone.pk = some clone.row ∧ clone.row.status = .active ∧
      clone.row.listing = some listingId ∧
      ∀ j o, s.activeOffers.get? j = some o → o.listing = some listingId → o.status = .active →
        j = clone.pk := by
  rw [activeClone] at h
  split at h
  · next c o heq =>
    cases h
    have hsel : ∀ j b, (j, b) ∈ s.activeOffers.select (fun _ c =>
        c.listing == some listingId && c.status == .active) ↔ (j, b) = (c, o) := by
      intro j b
      rw [heq, List.mem_singleton]
    obtain ⟨hget, hmatch⟩ := Table.mem_select.mp ((hsel c o).mpr rfl)
    rw [Bool.and_eq_true, beq_iff_eq, beq_iff_eq] at hmatch
    refine ⟨hget, hmatch.2, hmatch.1, fun j b hj hlisting hactive => ?_⟩
    have hin : (b.listing == some listingId && b.status == .active) = true := by
      rw [hlisting, hactive, Bool.and_eq_true, beq_iff_eq]
      exact ⟨rfl, rfl⟩
    exact congrArg Prod.fst ((hsel j b).mp (Table.mem_select.mpr ⟨hj, hin⟩))
  · cases h

theorem offerId_eq {id : String} (h : offerId (some id) ≠ "") : offerId (some id) = id := by
  show (if isOfferId id then id else "") = id
  rw [offerId] at h
  split at h
  · next hid => rw [if_pos hid]
  · exact absurd rfl h

theorem eq_some_of_getD {m : Option Nat} (h : m.getD 0 ≠ 0) : m = some (m.getD 0) := by
  cases m with
  | none => exact absurd rfl h
  | some n => rfl

/-- **What `_lock_context` has checked when it returns.** -/
theorem lockContext_ok {listingId : Nat} (h : lockContext s w listingId = .ok ctx) :
    Locked s listingId ctx := by
  unfold lockContext at h
  obtain ⟨listing, hlisting, h⟩ := except_bind_ok.mp h
  obtain ⟨account, -, h⟩ := except_bind_ok.mp h
  obtain ⟨clone, hclone, h⟩ := except_bind_ok.mp h
  obtain ⟨_, hlinked, h⟩ := except_bind_ok.mp h
  obtain ⟨item, hitem, h⟩ := except_bind_ok.mp h
  obtain ⟨product, -, h⟩ := except_bind_ok.mp h
  obtain ⟨lane, -, h⟩ := except_bind_ok.mp h
  obtain ⟨pool, -, h⟩ := except_bind_ok.mp h
  obtain ⟨template, -, h⟩ := except_bind_ok.mp h
  obtain ⟨_, -, h⟩ := except_bind_ok.mp h
  obtain ⟨_, -, h⟩ := except_bind_ok.mp h
  obtain ⟨_, -, h⟩ := except_bind_ok.mp h
  obtain ⟨_, -, h⟩ := except_bind_ok.mp h
  obtain ⟨_, -, h⟩ := except_bind_ok.mp h
  obtain ⟨_, -, h⟩ := except_bind_ok.mp h
  obtain ⟨_, hids, h⟩ := except_bind_ok.mp h
  obtain ⟨_, -, h⟩ := except_bind_ok.mp h
  obtain ⟨_, -, h⟩ := except_bind_ok.mp h
  obtain ⟨_, -, h⟩ := except_bind_ok.mp h
  obtain ⟨_, -, h⟩ := except_bind_ok.mp h
  cases h
  obtain ⟨hget, hactive, hof, honly⟩ := activeClone_ok hclone
  have hlinked := refuseIf_ok hlinked
  have hids := refuseIf_ok hids
  rw [Bool.or_eq_false_iff, beq_eq_false_iff_ne, beq_eq_false_iff_ne] at hlinked
  rw [Bool.or_eq_false_iff, Bool.or_eq_false_iff, beq_eq_false_iff_ne, bne_eq_false_iff_eq,
    bne_eq_false_iff_eq] at hids
  obtain ⟨⟨hid, hcloneId⟩, hitemId⟩ := hids
  rw [offerId_eq hid] at hcloneId hitemId
  exact ⟨rfl, getRow_ok hlisting, hget, hactive, hof, honly, getRow_ok hitem,
    eq_some_of_getD hlinked.1, rfl, hcloneId, hitemId⟩

theorem Locked.bound {listingId : Nat} (h : Locked s listingId ctx) :
    Bound s listingId ctx.clone.pk ctx.item.pk ctx.listing.row.storeListingId :=
  ⟨⟨_, h.listing, rfl⟩, ⟨_, h.clone, h.active, h.cloneListing, h.cloneItem, h.cloneId⟩,
    ⟨_, h.item, h.itemId⟩⟩

/-- `_stock_guard` lets no other active clone of the item pass. -/
theorem stockGuard_ok {listingId : Nat} {u : Unit} (hlocked : Locked s listingId ctx)
    (h : stockGuard lib s w ctx = .ok u) :
    ∀ j o, s.activeOffers.get? j = some o → o.poolItem = some ctx.item.pk → o.status = .active →
      j = ctx.clone.pk := by
  unfold stockGuard at h
  obtain ⟨_, -, h⟩ := except_bind_ok.mp h
  obtain ⟨_, -, h⟩ := except_bind_ok.mp h
  obtain ⟨_, -, h⟩ := except_bind_ok.mp h
  obtain ⟨_, hother, -⟩ := except_bind_ok.mp h
  have hother := Table.any_eq_false_iff.mp (refuseIf_ok hother)
  have hitem : (stockHistory lib s w ctx).itemIds.contains ctx.item.pk = true := by
    rw [List.contains_iff_mem]
    apply Table.mem_keys.mpr
    refine ⟨ctx.item.row, hlocked.item, ?_⟩
    rw [hlocked.product, Bool.or_eq_true]
    exact Or.inl (beq_self_eq_true _)
  intro j o hj hof hactive
  by_contra hne
  have hfalse := hother j o hj
  rw [hof, hactive] at hfalse
  have hfalse : ((stockHistory lib s w ctx).itemIds.contains ctx.item.pk && true &&
    j != ctx.clone.pk) = false := hfalse
  rw [hitem] at hfalse
  simp [hne] at hfalse

/-- The listing is still at the offer of the attempt, and its clone is the only active one of
the item. -/
theorem freshChecks_ok {listingId : Nat} {u : Unit} (hlocked : Locked s listingId ctx)
    (h : freshChecks lib s w ctx lead (some a) = .ok u) :
    ctx.listing.row.storeListingId = a.row.oldOfferId ∧
      ∀ j o, s.activeOffers.get? j = some o → o.poolItem = some ctx.item.pk → o.status = .active →
        j = ctx.clone.pk := by
  unfold freshChecks at h
  obtain ⟨_, -, h⟩ := except_bind_ok.mp h
  obtain ⟨_, hcycle, h⟩ := except_bind_ok.mp h
  obtain ⟨_, hguard, -⟩ := except_bind_ok.mp h
  have hcycle := refuseIf_ok hcycle
  rw [Option.any_some, Bool.or_eq_false_iff, Bool.or_eq_false_iff, bne_eq_false_iff_eq,
    bne_eq_false_iff_eq] at hcycle
  exact ⟨hcycle.1.2, stockGuard_ok hlocked hguard⟩

theorem reverify_ok {newId : String} {fresh : Context}
    (h : reverify lib r lead fingerprint a newId s w = .ok fresh) :
    Locked s r.listingId fresh ∧ freshChecks lib s w fresh lead (some a) = .ok () := by
  unfold reverify at h
  obtain ⟨ctx, hlock, h⟩ := except_bind_ok.mp h
  obtain ⟨_, -, h⟩ := except_bind_ok.mp h
  obtain ⟨_, hchecks, h⟩ := except_bind_ok.mp h
  obtain ⟨_, -, h⟩ := except_bind_ok.mp h
  obtain ⟨_, -, h⟩ := except_bind_ok.mp h
  cases h
  exact ⟨lockContext_ok hlock, hchecks⟩

/-! ### What a run may do -/

/-- The row of the attempt of `x` is pending, and of the cycle of `x`. -/
structure Held (x : Call) (a : Attempt) : Prop where
  pending : a.status = .pending
  cycle : a.cycle = (x.listing, x.offerId, x.previous)

/-- The attempts as claims to call. -/
def attempts : Claims Books Attempt Call where
  rows := Books.attempts
  owner := Attempt.run
  log := Books.calls
  claim := Call.attempt
  held := Held
  kept x a := a.cycle = (x.listing, x.offerId, x.previous)
  kept_of_held _ _ h := h.cycle

/-- Run `i` holds the attempt of `x`. -/
abbrev Holds (i : Nat) (x : Call) : Books → Prop :=
  attempts.Owns i x.attempt (Held x)

/-- Run `i` holds the attempt of `x` and has not called for it. -/
abbrev Ready (i : Nat) (x : Call) : Books → Prop :=
  attempts.Ready i x

/-- The attempt `k` was created by run `i`. -/
abbrev Mine (i k : Nat) : Books → Prop :=
  attempts.Owns i k fun _ => True

/-- A listing has one unresolved attempt at most. -/
def Fenced (s : Books) : Prop :=
  ∀ j k a b, s.attempts.get? j = some a → s.attempts.get? k = some b →
    a.listing = b.listing → a.status.unresolved = true → b.status.unresolved = true → j = k

structure Valid (s : Books) : Prop where
  once : attempts.Once s
  fenced : Fenced s

/-- No id changes, and no attempt becomes a success. -/
structure IdsKept (s s' : Books) : Prop where
  listings : s'.listings = s.listings
  activeOffers : s'.activeOffers = s.activeOffers
  items : s'.items = s.items
  attempts : ∀ k a, s'.attempts.get? k = some a → a.status = .succeeded →
    s.attempts.get? k = some a

/-- The ids of the listing `k`, its clone `c` and its item `t` change from `old` to `new`, and
nothing else of the three tables does. -/
structure ChangesTogether (s s' : Books) (k c t : Nat) (old new : String) : Prop where
  before : Bound s k c t old
  after : Bound s' k c t new
  alone : ∀ j o, s.activeOffers.get? j = some o → o.status = .active →
    o.listing = some k ∨ o.poolItem = some t → j = c
  listings : ∀ j, j ≠ k → s'.listings.get? j = s.listings.get? j
  activeOffers : ∀ j, j ≠ c → s'.activeOffers.get? j = s.activeOffers.get? j
  items : ∀ j, j ≠ t → s'.items.get? j = s.items.get? j

/-- The run `r` was answered a verified success, and the ids of its listing move to the
returned one, together with the success of its attempt. -/
def Renews (lib : Library) (r : Run) (s s' : Books) : Prop :=
  ∃ c t attempt a result newId expiry,
    ChangesTogether s s' r.listingId c t a.oldOfferId newId ∧
    s.attempts.get? attempt = some a ∧ a.status = .pending ∧ r.answer = .ok result ∧
    verifiedResult lib result a.previousExpiresAt r.answeredAt = (newId, some expiry, "") ∧
    s'.attempts.get? attempt =
      some (a.finished .succeeded "verified_renewal" newId (some expiry))

/-- What a transaction of run `i` does. -/
structure Guar (lib : Library) (runs : List Run) (i : Nat) (s s' : Books) : Prop where
  respects : attempts.Respects i s s'
  fenced : Fenced s → Fenced s'
  ids : IdsKept s s' ∨ ∃ r, runs[i]? = some r ∧ Renews lib r s s'

theorem IdsKept.refl (s : Books) : IdsKept s s :=
  ⟨rfl, rfl, rfl, fun _ _ h _ => h⟩

theorem Guar.refl (s : Books) : Guar lib runs i s s :=
  ⟨Claims.Respects.refl s, id, Or.inl (IdsKept.refl s)⟩

theorem Guar.valid (h : Guar lib runs i s s') (hs : Valid s) : Valid s' :=
  ⟨hs.once.step h.respects, h.fenced hs.fenced⟩

theorem create_some {b : Attempt} (h : s.create b = some s') :
    s'.attempts = s.attempts.create b ∧ s'.calls = s.calls ∧ s'.listings = s.listings ∧
      s'.activeOffers = s.activeOffers ∧ s'.items = s.items := by
  rw [Books.create] at h
  split at h
  · cases h
    exact ⟨rfl, rfl, rfl, rfl, rfl⟩
  · cases h

/-- A claim: the listing had no unresolved attempt. -/
theorem guar_create {b : Attempt} (hnew : s.create b = some s') (hpending : b.status = .pending)
    (hfree : ∀ k a, s.attempts.get? k = some a → a.listing = b.listing →
      a.status.unresolved = false) : Guar lib runs i s s' := by
  obtain ⟨hattempts, hcalls, hlistings, hoffers, hitems⟩ := create_some hnew
  have hcases : ∀ k c, s'.attempts.get? k = some c →
      k = s.attempts.nextKey ∧ c = b ∨ s.attempts.get? k = some c := by
    intro k c hc
    rw [hattempts, Table.get?_create] at hc
    split at hc
    · next hk =>
      cases hc
      exact Or.inl ⟨hk, rfl⟩
    · exact Or.inr hc
  refine ⟨Claims.Respects.create hattempts hcalls, fun h => ?_, Or.inl ?_⟩
  · intro j k c d hc hd heq hopen hopen'
    rcases hcases j c hc with ⟨hj, rfl⟩ | hc
    · rcases hcases k d hd with ⟨hk, -⟩ | hd
      · rw [hj, hk]
      · rw [hfree k d hd heq.symm] at hopen'
        cases hopen'
    · rcases hcases k d hd with ⟨-, rfl⟩ | hd
      · rw [hfree j c hc heq] at hopen
        cases hopen
      · exact h j k c d hc hd heq hopen hopen'
  · refine ⟨hlistings, hoffers, hitems, fun k c hc hdone => ?_⟩
    rcases hcases k c hc with ⟨-, rfl⟩ | hc
    · rw [hpending] at hdone
      cases hdone
    · exact hc

theorem get?_finish (s : Books) (k n : Nat) (status : Status) (reason newId : String)
    (expiry : Option Int) :
    (s.finish n status reason newId expiry).attempts.get? k =
      (s.attempts.get? k).map fun b =>
        if k = n then b.finished status reason newId expiry else b :=
  Table.get?_mapRows _ _

section Finish

variable {n : Nat} {b : Attempt} {status : Status} {reason newId : String} {expiry : Option Int}

theorem get?_finish_self (hb : s.attempts.get? n = some b) :
    (s.finish n status reason newId expiry).attempts.get? n =
      some (b.finished status reason newId expiry) := by
  rw [get?_finish, hb, Option.map_some, if_pos rfl]

theorem get?_finish_ne (hk : k ≠ n) :
    (s.finish n status reason newId expiry).attempts.get? k = s.attempts.get? k := by
  rw [get?_finish]
  simp [hk]

theorem finish_respects (hb : s.attempts.get? n = some b) (hrun : b.run = i) :
    attempts.Respects i s (s.finish n status reason newId expiry) :=
  Claims.Respects.update hb hrun (get?_finish_self hb) (fun _ hj => get?_finish_ne hj) rfl
    fun _ h => h

/-- A pending attempt may get any status. -/
theorem finish_fenced (hb : s.attempts.get? n = some b) (hpending : b.status = .pending)
    (h : Fenced s) : Fenced (s.finish n status reason newId expiry) := by
  have before : ∀ k c, (s.finish n status reason newId expiry).attempts.get? k = some c →
      ∃ c', s.attempts.get? k = some c' ∧ c'.listing = c.listing ∧
        (c.status.unresolved = true → c'.status.unresolved = true) := by
    intro k c hc
    by_cases hk : k = n
    · subst hk
      rw [get?_finish_self hb] at hc
      cases hc
      exact ⟨b, hb, rfl, fun _ => by rw [hpending]; rfl⟩
    · rw [get?_finish_ne hk] at hc
      exact ⟨c, hc, rfl, id⟩
  intro j k c d hc hd heq hopen hopen'
  obtain ⟨c', hc', hlisting, himp⟩ := before j c hc
  obtain ⟨d', hd', hlisting', himp'⟩ := before k d hd
  exact h j k c' d' hc' hd' (by rw [hlisting, hlisting', heq]) (himp hopen) (himp' hopen')

/-- An attempt that does not succeed leaves the ids. -/
theorem guar_finish (hb : s.attempts.get? n = some b) (hrun : b.run = i)
    (hpending : b.status = .pending) (hstatus : status ≠ .succeeded) :
    Guar lib runs i s (s.finish n status reason newId expiry) := by
  refine ⟨finish_respects hb hrun, finish_fenced hb hpending, Or.inl ?_⟩
  refine ⟨rfl, rfl, rfl, fun k c hc hdone => ?_⟩
  by_cases hk : k = n
  · subst hk
    rw [get?_finish_self hb] at hc
    cases hc
    exact absurd hdone hstatus
  · exact (get?_finish_ne hk).symm.trans hc

end Finish

/-- The three updates move the ids of the locked rows together. -/
theorem changesTogether_renew {listingId : Nat} {newId : String} {expiry now : Int}
    (hlocked : Locked s listingId ctx)
    (halone : ∀ j o, s.activeOffers.get? j = some o → o.poolItem = some ctx.item.pk →
      o.status = .active → j = ctx.clone.pk)
    (hlistings : s'.listings = (s.renew ctx newId expiry now).listings)
    (hoffers : s'.activeOffers = (s.renew ctx newId expiry now).activeOffers)
    (hitems : s'.items = (s.renew ctx newId expiry now).items) :
    ChangesTogether s s' listingId ctx.clone.pk ctx.item.pk ctx.listing.row.storeListingId
      newId := by
  have hlisting : ∀ j, s'.listings.get? j = (s.listings.get? j).map fun l =>
      if j == listingId then
        { l with storeListingId := newId, marketplaceExpiresAt := some expiry,
                 listedAt := some now } else l := by
    intro j
    rw [hlistings, ← hlocked.pk]
    exact Table.get?_updateWhere _ _ _
  have hoffer : ∀ j, s'.activeOffers.get? j = (s.activeOffers.get? j).map fun c =>
      if j == ctx.clone.pk then { c with storeListingId := newId } else c := by
    intro j
    rw [hoffers]
    exact Table.get?_updateWhere _ _ _
  have hitem : ∀ j, s'.items.get? j = (s.items.get? j).map fun t =>
      if j == ctx.item.pk then { t with targetOfferId := newId } else t := by
    intro j
    rw [hitems]
    exact Table.get?_updateWhere _ _ _
  refine ⟨hlocked.bound, ⟨?_, ?_, ?_⟩, ?_, ?_, ?_, ?_⟩
  · refine ⟨{ ctx.listing.row with storeListingId := newId, marketplaceExpiresAt := some expiry,
                                   listedAt := some now }, ?_, rfl⟩
    rw [hlisting, hlocked.listing, Option.map_some, if_pos (beq_self_eq_true _)]
  · refine ⟨{ ctx.clone.row with storeListingId := newId }, ?_, hlocked.active,
      hlocked.cloneListing, hlocked.cloneItem, rfl⟩
    rw [hoffer, hlocked.clone, Option.map_some, if_pos (beq_self_eq_true _)]
  · refine ⟨{ ctx.item.row with targetOfferId := newId }, ?_, rfl⟩
    rw [hitem, hlocked.item, Option.map_some, if_pos (beq_self_eq_true _)]
  · rintro j o hj hactive (hof | hof)
    · exact hlocked.onlyClone j o hj hof hactive
    · exact halone j o hj hof hactive
  · intro j hj
    rw [hlisting]
    simp [hj]
  · intro j hj
    rw [hoffer]
    simp [hj]
  · intro j hj
    rw [hitem]
    simp [hj]

/-- A call for an attempt the run holds and has not called for. -/
theorem guar_call (hready : Ready i x s) : Guar lib runs i s (s.call x) :=
  ⟨Claims.Respects.act hready rfl rfl, id, Or.inl ⟨rfl, rfl, rfl, fun _ _ h _ => h⟩⟩

/-! ### What the other runs leave -/

theorem stable_valid : Stable (Others (Guar lib runs) i) Valid := by
  rintro s s' h ⟨j, -, hguar⟩
  exact hguar.valid h

theorem stable_owns {P : Attempt → Prop} :
    Stable (Others (Guar lib runs) i) (attempts.Owns i k P) :=
  Claims.stable_owns fun _ _ _ h => h.respects

theorem stable_ready : Stable (Others (Guar lib runs) i) (Ready i x) :=
  Claims.stable_ready fun _ _ _ h => h.respects

/-! ### The steps of a run -/

/-- The judgement about the run number `i` against all others. -/
def Keeps (lib : Library) (runs : List Run) (i : Nat) {α : Type} (P : Books → Prop)
    (p : Proc Books α) (Q : α → Books → Prop) : Prop :=
  RelyTriple (Others (Guar lib runs) i) (Guar lib runs i) P p Q

/-- The listing had no unresolved attempt when the claim was made. -/
theorem free_of_select {listing : Nat}
    (h : (s.attempts.select fun _ a => a.listing == listing && a.status.unresolved) = []) :
    ∀ k a, s.attempts.get? k = some a → a.listing = listing → a.status.unresolved = false := by
  intro k a ha hof
  by_contra hopen
  rw [Bool.not_eq_false] at hopen
  have hin : (k, a) ∈ s.attempts.select fun _ a => a.listing == listing && a.status.unresolved :=
    Table.mem_select.mpr ⟨ha, by rw [hof, hopen]; simp⟩
  rw [h] at hin
  cases hin

/-- What the claim leaves the run with. -/
def Claims (i : Nat) (answer : Claimed) (s : Books) : Prop :=
  ∀ a fingerprint, answer = .attempt a fingerprint → Ready i (callOf a) s

theorem stable_claims (answer : Claimed) :
    Stable (Others (Guar lib runs) i) (Claims i answer) :=
  Stable.all fun _ => Stable.all fun _ => Stable.imp fun _ => stable_ready

theorem claims_answered (answer : Answer) : Claims i (.answered answer) s := by
  intro a fingerprint h
  cases h

theorem createAttempt_spec {listing : Listing} {previous : Int} (hs : Valid s)
    (hfree : ∀ k a, s.attempts.get? k = some a → a.listing = r.listingId →
      a.status.unresolved = false) :
    Guar lib runs i s (createAttempt lib r i listing previous ctx s).2 ∧
      Claims i (createAttempt lib r i listing previous ctx s).1
        (createAttempt lib r i listing previous ctx s).2 := by
  rw [createAttempt]
  split
  · exact ⟨Guar.refl s, claims_answered _⟩
  · next s' hnew =>
    have hguar : Guar lib runs i s s' := guar_create hnew rfl hfree
    obtain ⟨hattempts, hcalls, -⟩ := create_some hnew
    cases r.claimCommit with
    | done =>
      refine ⟨hguar, fun a fingerprint h => ?_⟩
      cases h
      have hget := congrArg (fun t => t.get? s.attempts.nextKey) hattempts
      rw [Table.get?_create, if_pos rfl] at hget
      refine ⟨⟨_, hget, rfl, ⟨rfl, rfl⟩⟩, ?_⟩
      show s.attempts.nextKey ∉ s'.calls.map Call.attempt
      rw [hcalls]
      exact hs.once.fresh
    | rolledBack => exact ⟨Guar.refl s, claims_answered _⟩
    | lost => exact ⟨hguar, claims_answered _⟩

/-- What holds of every answer that leaves the books and of every attempt created for a listing
without an unresolved one holds of the claim. -/
theorem claim_rule {K : Claimed × Books → Prop} (answered : ∀ answer, K (.answered answer, s))
    (created : ∀ listing previous ctx, s.listings.get? r.listingId = some listing →
      (∀ k a, s.attempts.get? k = some a → a.listing = r.listingId →
        a.status.unresolved = false) →
      K (createAttempt lib r i listing previous ctx s)) :
    K (claim lib r lead i s) := by
  rw [claim]
  split
  · next listing _ hlisting =>
    split
    · exact answered _
    next hfree =>
    split
    · exact answered _
    split
    · exact answered _
    split
    · exact answered _
    split
    · exact answered _
    · exact answered _
    · exact created _ _ _ hlisting (free_of_select hfree)
  · exact answered _

/-- **The claim.**  It creates an attempt only for a listing without an unresolved one. -/
theorem keeps_claim : Keeps lib runs i Valid (Proc.atomic (claim lib r lead i)) (Claims i) := by
  apply RelyTriple.atomic stable_valid stable_claims
  intro s hs
  apply claim_rule (K := fun c => Guar lib runs i s c.2 ∧ Claims i c.1 c.2)
  · exact fun answer => ⟨Guar.refl s, claims_answered answer⟩
  · intro listing previous ctx _ hfree
    exact createAttempt_spec hs hfree

/-- What stands after the first half of the second transaction. -/
def Calls (i : Nat) (k : Nat) (answer : Called) (s : Books) : Prop :=
  Mine i k s ∧ ∀ a, answer = .called a → Holds i (callOf a) s

theorem stable_calls (answer : Called) :
    Stable (Others (Guar lib runs) i) (Calls i k answer) := by
  rintro s s' ⟨hmine, hcalled⟩ hR
  exact ⟨stable_owns s s' hmine hR, fun a ha => stable_owns s s' (hcalled a ha) hR⟩

/-- **Up to the call.**  Every refusal is before it, and leaves the ids. -/
theorem keeps_preCall (hk : x.attempt = k) :
    Keeps lib runs i (Ready i x) (Proc.atomic (preCall lib r lead k fingerprint))
      (Calls i k) := by
  subst hk
  apply RelyTriple.atomic stable_ready stable_calls
  intro s hs
  have hready := hs
  obtain ⟨⟨b, hb, hrun, held⟩, -⟩ := hs
  have hb : s.attempts.get? x.attempt = some b := hb
  have hmine : Mine i x.attempt s := ⟨b, hb, hrun, trivial⟩
  have failed : Guar lib runs i s s ∧ Calls i x.attempt .failed s :=
    ⟨Guar.refl s, hmine, fun a h => by cases h⟩
  rw [preCall]
  split
  · exact failed
  split
  · next ctx a _ ha =>
    rw [hb] at ha
    cases ha
    rw [if_neg (not_not_intro held.pending)]
    split
    · next code _ =>
      have hguar : Guar lib runs i s (s.finish x.attempt .rejected code) :=
        guar_finish hb hrun held.pending (by decide)
      have hmine' : Mine i x.attempt (s.finish x.attempt .rejected code) :=
        ⟨_, get?_finish_self hb, hrun, trivial⟩
      cases r.preCommit with
      | done => exact ⟨hguar, hmine', fun a h => by cases h⟩
      | rolledBack => exact failed
      | lost => exact ⟨hguar, hmine', fun a h => by cases h⟩
    · exact failed
    · have hcall : callOf ⟨x.attempt, b⟩ = x := by
        have hcycle := held.cycle
        rw [Attempt.cycle, Prod.mk.injEq, Prod.mk.injEq] at hcycle
        obtain ⟨hlisting, hoffer, hprevious⟩ := hcycle
        rw [callOf, hlisting, hoffer, hprevious]
      rw [hcall]
      refine ⟨guar_call hready, hmine, fun a h => ?_⟩
      cases h
      rw [hcall]
      exact hready.1
  · exact failed

theorem commitAnswer_cases (answer : Answer) (newId : String) (expiry : Option Int)
    (s s' : Books) :
    (commitAnswer r answer newId expiry s s').2 = s' ∨
      (commitAnswer r answer newId expiry s s').2 = s := by
  rw [commitAnswer]
  cases r.postCommit with
  | done => exact Or.inl rfl
  | rolledBack => exact Or.inr rfl
  | lost => exact Or.inl rfl

/-- What holds of the books as they are, of every ending without success and of every verified
renewal holds of the books after the second transaction. -/
theorem settle_rule {K : Books → Prop} (kept : K s)
    (finished : ∀ status reason newId expiry, status ≠ Status.succeeded →
      K (s.finish a.pk status reason newId expiry))
    (renewed : ∀ result newId date w fresh, r.answer = .ok result →
      verifiedResult lib result a.row.previousExpiresAt r.answeredAt = (newId, some date, "") →
      reverify lib r lead fingerprint a newId s w = .ok fresh →
      K ((s.renew fresh newId date w.now).finish a.pk .succeeded "verified_renewal" newId
        (some date))) :
    K (settle lib r lead fingerprint a s).2 := by
  have commit : ∀ answer newId expiry s', K s' →
      K (commitAnswer r answer newId expiry s s').2 := by
    intro answer newId expiry s' h
    rcases commitAnswer_cases answer newId expiry s s' with heq | heq
    · rw [heq]
      exact h
    · rw [heq]
      exact kept
  rw [settle]
  split
  · exact commit _ _ _ _ (finished _ _ _ _ (by decide))
  next result hanswer =>
  split
  · exact kept
  next newId expiry reason w hverified _ =>
  split
  · exact kept
  · exact commit _ _ _ _ (finished _ _ _ _ (by decide))
  next fresh hfresh =>
  split
  · exact commit _ _ _ _ (finished _ _ _ _ (by decide))
  split
  · exact commit _ _ _ _ (finished _ _ _ _ (by decide))
  next hreason =>
  split
  · exact kept
  next date =>
  rw [not_not] at hreason
  rw [hreason] at hverified
  exact commit _ _ _ _ (renewed result newId date w fresh hanswer hverified hfresh)

/-- **From the answer on.**  The ids change on a verified success, and otherwise stay. -/
theorem keeps_settle (hr : runs[i]? = some r) :
    Keeps lib runs i (Holds i (callOf a)) (Proc.atomic (settle lib r lead fingerprint a))
      fun _ => Mine i a.pk := by
  apply RelyTriple.atomic stable_owns
  · exact fun _ => stable_owns
  rintro s ⟨b, hb, hrun, held⟩
  have hb : s.attempts.get? a.pk = some b := hb
  have hcycle := held.cycle
  rw [Attempt.cycle, Prod.mk.injEq, Prod.mk.injEq] at hcycle
  obtain ⟨-, hoffer, hprevious⟩ := hcycle
  have hoffer : b.oldOfferId = a.row.oldOfferId := hoffer
  have hprevious : b.previousExpiresAt = a.row.previousExpiresAt := hprevious
  apply settle_rule (K := fun s' => Guar lib runs i s s' ∧ Mine i a.pk s')
  · exact ⟨Guar.refl s, b, hb, hrun, trivial⟩
  · intro status reason newId expiry hstatus
    exact ⟨guar_finish hb hrun held.pending hstatus, _, get?_finish_self hb, hrun, trivial⟩
  · intro result newId date w fresh hanswer hverified hfresh
    have hrenewed : (s.renew fresh newId date w.now).attempts.get? a.pk = some b := hb
    have hrow : ((s.renew fresh newId date w.now).finish a.pk .succeeded "verified_renewal" newId
        (some date)).attempts.get? a.pk =
          some (b.finished .succeeded "verified_renewal" newId (some date)) :=
      get?_finish_self hrenewed
    refine ⟨⟨?_, fun h => finish_fenced hrenewed held.pending h, Or.inr ⟨r, hr, ?_⟩⟩,
      _, hrow, hrun, trivial⟩
    · exact Claims.Respects.update hb hrun hrow (fun _ hj => get?_finish_ne hj) rfl fun _ h => h
    · obtain ⟨hlocked, hchecks⟩ := reverify_ok hfresh
      obtain ⟨hsame, halone⟩ := freshChecks_ok hlocked hchecks
      refine ⟨fresh.clone.pk, fresh.item.pk, a.pk, b, result, newId, date, ?_, hb, held.pending,
        hanswer, ?_, hrow⟩
      · rw [hoffer, ← hsame]
        exact changesTogether_renew hlocked halone rfl rfl rfl
      · rw [hprevious, hverified]

/-- What is noted of a rolled back attempt leaves the ids. -/
theorem keeps_giveUp {sent : Bool} {newId : String} {expiry : Option Int} :
    Keeps lib runs i (Mine i a.pk) (Proc.atomic (giveUp r a sent newId expiry))
      fun _ _ => True := by
  apply RelyTriple.atomic stable_owns
  · exact fun _ => stable_true
  rintro s ⟨b, hb, hrun, -⟩
  have hb : s.attempts.get? a.pk = some b := hb
  refine ⟨?_, trivial⟩
  rw [giveUp, hb]
  dsimp only
  split
  · next hpending =>
    rcases r.giveUpCommit.settle_cases () s (s.finish a.pk .unknown _ newId expiry) with
      heq | ⟨-, heq⟩
    · rw [heq]
      exact guar_finish hb hrun hpending (by decide)
    · rw [heq]
      exact Guar.refl s
  · exact Guar.refl s

/-- **The rule for a whole run**: what its transactions keep, one after another. -/
theorem renewMartListing_rule {R G : Books → Books → Prop} {P : Books → Prop}
    {C : Claimed → Books → Prop} {D : Obj Attempt → Called → Books → Prop}
    {E : Obj Attempt → Settled → Books → Prop}
    (hP : Stable R P) (hC : ∀ c, Stable R (C c)) (hD : ∀ a c, Stable R (D a c))
    (hE : ∀ b c, Stable R (E b c))
    (claim : ∀ lead, RelyTriple R G P (Proc.atomic (claim lib r lead i)) C)
    (preCall : ∀ lead a fingerprint, RelyTriple R G (C (.attempt a fingerprint))
      (Proc.atomic (preCall lib r lead a.pk fingerprint)) (D a))
    (settle : ∀ lead a fingerprint b, RelyTriple R G (D a (.called b))
      (Proc.atomic (settle lib r lead fingerprint b)) (E b))
    (failed : ∀ a, RelyTriple R G (D a .failed) (Proc.atomic (giveUp r a false "" none))
      fun _ _ => True)
    (rolledBack : ∀ b newId expiry, RelyTriple R G (E b (.failed newId expiry))
      (Proc.atomic (giveUp r b true newId expiry)) fun _ _ => True) :
    RelyTriple R G P (renewMartListing lib r i) fun _ _ => True := by
  have ended : ∀ answer : Answer, RelyTriple R G P (pure answer) fun _ _ => True :=
    fun answer => RelyTriple.pure hP fun _ _ => trivial
  rw [renewMartListing]
  split
  · exact ended _
  split
  · exact ended _
  split
  · exact ended _
  split
  · exact ended _
  apply RelyTriple.bind (claim _)
  rintro (answer | ⟨a, fingerprint⟩)
  · exact RelyTriple.pure (hC _) fun _ _ => trivial
  apply RelyTriple.bind (preCall _ a fingerprint)
  rintro (answer | - | b)
  · exact RelyTriple.pure (hD _ _) fun _ _ => trivial
  · exact failed a
  apply RelyTriple.bind (settle _ a fingerprint b)
  rintro (answer | ⟨newId, expiry⟩)
  · exact RelyTriple.pure (hE _ _) fun _ _ => trivial
  · exact rolledBack b newId expiry

/-- **A whole run keeps to its guarantee**, from any valid books and against any other runs. -/
theorem keeps_renewMartListing (hr : runs[i]? = some r) :
    Keeps lib runs i Valid (renewMartListing lib r i) fun _ _ => True := by
  apply renewMartListing_rule stable_valid stable_claims (fun a => stable_calls (k := a.pk))
    (E := fun b _ => Mine i b.pk) fun _ _ => stable_owns
  · exact fun lead => keeps_claim
  · intro lead a fingerprint
    exact RelyTriple.conseq (keeps_preCall (x := callOf a) rfl) (fun s hs => hs _ _ rfl)
      fun _ _ h => h
  · intro lead a fingerprint b
    exact (keeps_settle hr).conseq (fun s hs => hs.2 b rfl) fun _ _ h => h
  · intro a
    exact keeps_giveUp.conseq (fun s hs => hs.1) fun _ _ h => h
  · exact fun b newId expiry => keeps_giveUp

/-! ### Every schedule -/

/-- Any number of runs on any listings, clones and items, before the first attempt. -/
def start (lib : Library) (listings : Table Listing)
    (activeOffers : Table OfferPoolActiveOffer) (items : Table OfferPoolItem) (runs : List Run) :
    System Books Answer where
  store := { listings, activeOffers, items
             requestUnique := Table.unique_empty, cycleUnique := Table.unique_empty }
  procs := runs.mapIdx fun i r => renewMartListing lib r i

section Schedules

variable {listings : Table Listing} {activeOffers : Table OfferPoolActiveOffer}
  {items : Table OfferPoolItem}

theorem valid_start : Valid (start lib listings activeOffers items runs).store where
  once := ⟨fun x hx => absurd hx List.not_mem_nil, List.nodup_nil⟩
  fenced j k a b h := by cases h

theorem allSafe_start : AllSafe (Guar lib runs) (start lib listings activeOffers items runs) := by
  intro i p hp
  have hp : (runs.mapIdx fun i r => renewMartListing lib r i)[i]? = some p := hp
  rw [List.getElem?_mapIdx] at hp
  obtain ⟨r, hr, rfl⟩ := Option.map_eq_some_iff.mp hp
  exact keeps_renewMartListing hr _ valid_start

end Schedules

/-- The step makes no call, or one for a listing whose only unresolved attempt is the one the
call is made for. -/
def CallsFenced (s s' : Books) : Prop :=
  s'.calls = s.calls ∨ ∃ x, s'.calls = s.calls ++ [x] ∧
    ∀ k a, s.attempts.get? k = some a → a.listing = x.listing → a.status.unresolved = true →
      k = x.attempt

/-- The step leaves all ids, or moves those of the listing of run `i`, its clone and its item
together to the id of a verified success. -/
def AllOrNothing (lib : Library) (runs : List Run) (i : Nat) (s s' : Books) : Prop :=
  IdsKept s s' ∨ ∃ r, runs[i]? = some r ∧ Renews lib r s s'

/-- The listing, the offer id and the expiry of a call. -/
def Call.cycle (x : Call) : Nat × String × Int :=
  (x.listing, x.offerId, x.previous)

theorem Guar.callsFenced (h : Guar lib runs i s s') (hs : Valid s) : CallsFenced s s' := by
  rcases h.respects.acts with hnone | ⟨x, hx, ⟨b, hb, -, held⟩, -⟩
  · exact Or.inl hnone
  · refine Or.inr ⟨x, hx, fun k a ha hof hopen => ?_⟩
    have hlisting : b.listing = x.listing := congrArg Prod.fst held.cycle
    exact hs.fenced k x.attempt a b ha hb (hof.trans hlisting.symm) hopen
      (by rw [held.pending]; rfl)

/-- **The unique cycle fences the cycle.** -/
theorem Valid.cycles_nodup (h : Valid s) : (s.calls.map Call.cycle).Nodup := by
  refine h.once.nodup fun x y a b ha hb hcycle hcycle' heq => ?_
  have hsame : a.cycle = b.cycle := hcycle.trans (heq.trans hcycle'.symm)
  exact s.cycleUnique _ _ a b a.cycle ha hb rfl (congrArg some hsame.symm)

/-- **A Mart renewal is called for at most once, and is all or nothing.**  However many runs
there are and however they are scheduled: a call is made only while the listing has no
unresolved attempt but the caller's own, no two calls are made for one listing, offer id and
expiry, and a step changes the ids of a listing, its clone and its item together, to the
id of a verified success, or none of them. -/
theorem mart_renewal_once_and_whole (lib : Library) (listings : Table Listing)
    (activeOffers : Table OfferPoolActiveOffer) (items : Table OfferPoolItem) (runs : List Run)
    (schedule : List Nat) :
    Along System.step (fun S i => CallsFenced S.store (S.step i).store ∧
        AllOrNothing lib runs i S.store (S.step i).store)
      (start lib listings activeOffers items runs) schedule ∧
    Always System.step (fun S => (S.store.calls.map Call.cycle).Nodup)
      (start lib listings activeOffers items runs) schedule := by
  have hkeep : ∀ i s s', Valid s → Guar lib runs i s s' → Valid s' :=
    fun i s s' h hguar => hguar.valid h
  constructor
  · refine along_guar allSafe_start valid_start hkeep ?_ schedule
    intro S i hS hstep
    rcases hstep with hguar | heq
    · exact ⟨hguar.callsFenced hS, hguar.ids⟩
    · rw [heq]
      exact ⟨Or.inl rfl, Or.inl (IdsKept.refl _)⟩
  · exact (always_store allSafe_start valid_start hkeep schedule).mono
      fun S h => h.cycles_nodup

/-! ### Two runs that meet -/

/-- A table of one row. -/
def single {α : Type} (k : Nat) (row : α) : Table α :=
  ⟨[(k, row)], List.nodup_singleton k⟩

/-- The template `1` and its clone `2`. -/
def cloneListings : Table Listing :=
  ⟨[(1, { integrationAccount := some 1, storeListingId := "500", marketplaceExpiresAt := none
          game := some 1 }),
    (2, { integrationAccount := some 1, storeListingId := "700", marketplaceExpiresAt := some 10
          game := some 1 })], by decide⟩

/-- Local tables that let the clone be renewed. -/
def openWorld : World :=
  { now := 0, renewExpiringPa := .ok (some { isEnabled := true })
    accounts := single 1 { slug := martAccountSlug, provider := .playerauctions }
    credentials := [{ account := 1 }]
    products := single 1 { status := .listed, game := some 1 }
    lanes := single 1 { pool := 1, listing := 1 }
    pools := single 1 { game := 1 }
    links := [⟨2, 1⟩] }

/-- A run that meets nothing in its way. -/
def openRun : Run :=
  { listingId := 2, entry := openWorld, claimWorld := .ok openWorld, preWorld := .ok openWorld
    answer := .ok { ok := some true, data := .mapping (some "900") (some "30") }
    answeredAt := 0, postWorld := .ok openWorld }

def plainLibrary : Library :=
  { fromIsoFormat := fun _ => some (.aware 30), isoFormat := fun _ => "10"
    timedeltaHours := fun _ => 20, sha256 := id, extractTrackingCode := fun _ => "" }

/-- The clone with its row and its item, and two runs for it. -/
def twoRuns : System Books Answer :=
  start plainLibrary cloneListings
    (single 1 { pool := 1, poolOffer := some 1, storeListingId := "700", listing := some 2
                poolItem := some 1 })
    (single 1 { pool := 1, ownedProduct := 1, liveOwnedProduct := some 1, poolOffer := some 1
                targetOfferId := "700" })
    [openRun, openRun]

-- the second run meets the attempt of the first, and the item ends at the returned id
example :
    (run System.step twoRuns [0, 1, 0, 1, 0]).store.calls = [⟨2, "700", 10, 0⟩] ∧
      ((run System.step twoRuns [0, 1, 0, 1, 0]).store.items.get? 1).map
        OfferPoolItem.targetOfferId = some "900" := by
  decide +kernel

end Sda.Mart
