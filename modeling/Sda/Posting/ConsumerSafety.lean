/-
Sda/Posting/ConsumerSafety.lean

Which products a failing store thread may put back.

A product may be released as `absent` only if no create request carrying its
credentials could have been accepted; a failing item whose credentials may
have arrived must be released as `unknown`.  `SoundReleases` says so of the
desk a thread leaves.

The desk only grows, so every pipeline is described by what it adds
(`Adds Desk.fate`): for each product a `Fate`, four marks in a commutative
monoid.  Per item the fate is a function of what the marketplace answers, and
`Clean` conditions on the answers say when it is sound.  The products of a
thread are distinct, so the fates of its items do not mix: this is the only
use of that hypothesis.

Main result: `releases_sound_iff`, with the exact condition for each of the
pipelines.  The last section carries it to the database: only a call that
names a product as `absent` returns its item to PENDING.
-/
import Mathlib.Algebra.Group.Pi.Basic
import Sda.Lib.Measure
import Sda.Posting.Consumer

namespace Sda

open Prog

/-! ### Fates -/

/-- What the desk says about one product. -/
structure Fate where
  exposed : Bool := false
  absent : Bool := false
  unknown : Bool := false
  failed : Bool := false
  deriving DecidableEq, Repr

namespace Fate

instance : Zero Fate := ⟨{}⟩

instance : Add Fate :=
  ⟨fun f g => ⟨f.exposed || g.exposed, f.absent || g.absent, f.unknown || g.unknown,
    f.failed || g.failed⟩⟩

theorem add_def (f g : Fate) : f + g = ⟨f.exposed || g.exposed, f.absent || g.absent,
    f.unknown || g.unknown, f.failed || g.failed⟩ := rfl

theorem zero_def : (0 : Fate) = {} := rfl

instance : AddCommMonoid Fate where
  add_assoc f g h := by simp only [add_def, Bool.or_assoc]
  zero_add f := by simp only [add_def, zero_def, Bool.false_or]
  add_zero f := by simp only [add_def, zero_def, Bool.or_false]
  add_comm f g := by simp only [add_def, Bool.or_comm]
  nsmul := nsmulRec

theorem add_self (f : Fate) : f + f = f := by
  simp only [add_def, Bool.or_self]

/-- A product that may have been sent is not released as absent, and if its
item failed it is released as unknown. -/
def Sound (f : Fate) : Prop :=
  f.exposed = true → f.absent = false ∧ (f.failed = true → f.unknown = true)

theorem sound_zero : (0 : Fate).Sound := fun h => nomatch h

/-- A failing item, released with `outcome`. -/
def released (exposed : Bool) (outcome : RemoteOutcome) : Fate :=
  { exposed, absent := outcome == .absent, unknown := outcome == .unknown, failed := true }

theorem sound_of_not_exposed {f : Fate} (h : f.exposed = false) : f.Sound := by
  intro hexp
  rw [h] at hexp
  cases hexp

theorem sound_of_not_failed {f : Fate} (ha : f.absent = false) (hf : f.failed = false) :
    f.Sound := by
  refine fun _ => ⟨ha, fun h => ?_⟩
  rw [hf] at h
  cases h

theorem exposed_add_released (b : Bool) (outcome : RemoteOutcome) :
    ({ exposed := b } : Fate) + released false outcome = released b outcome := by
  simp [add_def, released]

@[simp] theorem sound_released_unknown (b : Bool) : (released b .unknown).Sound :=
  fun _ => ⟨rfl, fun _ => rfl⟩

@[simp] theorem sound_released_absent {b : Bool} : (released b .absent).Sound ↔ b = false := by
  cases b <;> simp [Sound, released]

end Fate

/-- The fates of all products. -/
def Desk.fate (d : Desk) (p : Nat) : Fate where
  exposed := p ∈ d.exposed
  absent := d.releases.any fun call => call.outcome == .absent && p ∈ call.products
  unknown := d.releases.any fun call => call.outcome == .unknown && p ∈ call.products
  failed := p ∈ d.failed

/-- **The releases of a desk are sound**: no call releases an exposed product
as absent, and the exposed products of failed items are in a call that
releases them as unknown. -/
structure SoundReleases (d : Desk) : Prop where
  absent : ∀ call ∈ d.releases, call.outcome = .absent → ∀ p ∈ call.products, p ∉ d.exposed
  failed : ∀ p ∈ d.failed, p ∈ d.exposed →
    ∃ call ∈ d.releases, call.outcome = .unknown ∧ p ∈ call.products

theorem soundReleases_iff_fate {d : Desk} : SoundReleases d ↔ ∀ p, (d.fate p).Sound := by
  constructor
  · intro ⟨habsent, hfailed⟩ p hexp
    have hexp : p ∈ d.exposed := by simpa [Desk.fate] using hexp
    refine ⟨?_, fun hf => ?_⟩
    · by_contra hne
      obtain ⟨call, hmem, hcall⟩ := List.any_eq_true.mp (Bool.not_eq_false _ ▸ hne)
      obtain ⟨hout, hp⟩ := Bool.and_eq_true _ _ ▸ hcall
      exact habsent call hmem (eq_of_beq hout) p (by simpa using hp) hexp
    · obtain ⟨call, hmem, hout, hp⟩ := hfailed p (by simpa [Desk.fate] using hf) hexp
      exact List.any_eq_true.mpr ⟨call, hmem, by simp [hout, hp]⟩
  · intro h
    refine ⟨fun call hmem hout p hp hexp => ?_, fun p hp hexp => ?_⟩
    · have hfalse := (h p (by simpa [Desk.fate] using hexp)).1
      have htrue : (d.fate p).absent = true :=
        List.any_eq_true.mpr ⟨call, hmem, by simp [hout, hp]⟩
      rw [hfalse] at htrue
      cases htrue
    · have hunknown := (h p (by simpa [Desk.fate] using hexp)).2 (by simpa [Desk.fate] using hp)
      obtain ⟨call, hmem, hcall⟩ := List.any_eq_true.mp hunknown
      obtain ⟨hout, hp⟩ := Bool.and_eq_true _ _ ▸ hcall
      exact ⟨call, hmem, eq_of_beq hout, by simpa using hp⟩

/-- The fate `f` for each of `products`, nothing for the others. -/
def spread (products : List Nat) (f : Fate) (p : Nat) : Fate :=
  if p ∈ products then f else 0

/-- The fate `f` for the product of an entry. -/
abbrev owned (e : Entry) (f : Fate) : Nat → Fate :=
  spread e.ownedProduct.toList f

@[simp] theorem spread_zero (products : List Nat) : spread products 0 = 0 := by
  funext p
  simp [spread]

@[simp] theorem spread_blank (products : List Nat) : spread products {} = 0 :=
  spread_zero products

@[simp] theorem spread_nil (f : Fate) : spread [] f = 0 := by
  funext p
  simp [spread]

theorem owned_zero (e : Entry) : owned e 0 = 0 := spread_zero _

theorem spread_add (products : List Nat) (f g : Fate) :
    spread products f + spread products g = spread products (f + g) := by
  funext p
  by_cases h : p ∈ products <;> simp [spread, h]

theorem spread_append (xs ys : List Nat) (f : Fate) :
    spread (xs ++ ys) f = spread xs f + spread ys f := by
  funext p
  by_cases hx : p ∈ xs <;> by_cases hy : p ∈ ys <;> simp [spread, hx, hy, Fate.add_self]

/-- The products of a list of things are exposed, released, … one by one. -/
theorem spread_filterMap {β : Type} (owner : β → Option Nat) (xs : List β) (f : Fate) :
    spread (xs.filterMap owner) f = (xs.map fun x => spread (owner x).toList f).sum := by
  induction xs with
  | nil => exact spread_nil f
  | cons x xs ih =>
    have hcons : (x :: xs).filterMap owner = (owner x).toList ++ xs.filterMap owner := by
      rcases h : owner x with - | p <;> simp [h]
    rw [hcons, spread_append, ih, List.map_cons, List.sum_cons]

theorem sum_owned_of_not_mem {entries : List Entry} {p : Nat}
    (hp : p ∉ entries.filterMap Entry.ownedProduct) (fate : Entry → Fate) :
    (entries.map fun e => owned e (fate e)).sum p = 0 := by
  induction entries with
  | nil => rfl
  | cons x xs ih =>
    have hx : x.ownedProduct ≠ some p := by
      intro hx
      exact hp (List.mem_filterMap.mpr ⟨x, List.mem_cons_self, hx⟩)
    have hxs : p ∉ xs.filterMap Entry.ownedProduct := by
      intro hmem
      obtain ⟨y, hy, hyp⟩ := List.mem_filterMap.mp hmem
      exact hp (List.mem_filterMap.mpr ⟨y, List.mem_cons_of_mem x hy, hyp⟩)
    rw [List.map_cons, List.sum_cons, Pi.add_apply, ih hxs, add_zero]
    simp [spread, hx]

/-- **The fates of distinct products do not mix.** -/
theorem sum_owned {entries : List Entry} (hnd : (entries.filterMap Entry.ownedProduct).Nodup)
    (fate : Entry → Fate) {e : Entry} (he : e ∈ entries) {p : Nat} (hp : e.ownedProduct = some p) :
    (entries.map fun e => owned e (fate e)).sum p = fate e := by
  induction entries with
  | nil => cases he
  | cons x xs ih =>
    rw [List.map_cons, List.sum_cons, Pi.add_apply]
    rcases List.mem_cons.mp he with rfl | he
    · have hrest : (xs.map fun e => owned e (fate e)).sum p = 0 := by
        rw [List.filterMap_cons_some hp] at hnd
        exact sum_owned_of_not_mem (List.nodup_cons.mp hnd).1 fate
      rw [hrest, add_zero]
      simp [spread, hp]
    · have hx : x.ownedProduct ≠ some p := by
        intro hx
        rw [List.filterMap_cons_some hx] at hnd
        exact (List.nodup_cons.mp hnd).1 (List.mem_filterMap.mpr ⟨e, he, hp⟩)
      have hzero : owned x (fate x) p = 0 := by
        simp [spread, hx]
      rw [hzero, zero_add]
      refine ih ?_ he
      rcases ho : x.ownedProduct with - | q
      · rwa [List.filterMap_cons_none ho] at hnd
      · rw [List.filterMap_cons_some ho] at hnd
        exact (List.nodup_cons.mp hnd).2

/-! ### What the statements add -/

theorem sendCreate_adds {α : Type} (products : List Nat) (answer : WriteAnswer α) :
    Adds Desk.fate (sendCreate products answer) answer.result
      (spread products { exposed := answer.mayHaveWritten }) := by
  have hchange : Adds Desk.fate (ε := PyError) (change fun d : Desk =>
        if answer.mayHaveWritten then { d with exposed := d.exposed ++ products } else d)
      (.ok ()) (spread products { exposed := answer.mayHaveWritten }) := by
    refine Adds.change fun d => ?_
    funext p
    by_cases hw : answer.mayHaveWritten = true <;> by_cases hp : p ∈ products <;>
      simp [Desk.fate, spread, Fate.add_def, Fate.zero_def, hw, hp]
  exact (hchange.bind (Adds.known answer.result)).congr (add_zero _)

theorem sendOffer_adds (e : Entry) (reply : RelayReply) :
    Adds Desk.fate (sendOffer e reply) (.ok (postRow reply))
      (owned e { exposed := reply.written }) := by
  have hchange : Adds Desk.fate (ε := PyError) (change fun d : Desk =>
        if reply.written then { d with exposed := d.exposed ++ e.ownedProduct.toList } else d)
      (.ok ()) (owned e { exposed := reply.written }) := by
    refine Adds.change fun d => ?_
    funext p
    by_cases hw : reply.written = true <;> by_cases hp : p ∈ e.ownedProduct.toList <;>
      simp [Desk.fate, spread, Fate.add_def, Fate.zero_def, hw, hp]
  exact (hchange.bind (Adds.pure (postRow reply))).congr (add_zero _)

theorem markFailed_adds (e : Entry) :
    Adds Desk.fate (markFailed e) (.ok ()) (owned e { failed := true }) := by
  refine Adds.change fun d => ?_
  funext p
  by_cases hp : p ∈ e.ownedProduct.toList <;>
    simp [Desk.fate, spread, Fate.add_def, Fate.zero_def, hp]

theorem releaseProducts_adds (products : List Nat) (reason : String) (outcome : RemoteOutcome) :
    Adds Desk.fate (releaseProducts products reason outcome) (.ok ())
      (spread products { absent := outcome == .absent, unknown := outcome == .unknown }) := by
  refine Adds.change fun d => ?_
  funext p
  by_cases hp : p ∈ products <;> simp [Desk.fate, spread, Fate.add_def, Fate.zero_def, hp]

theorem releaseAny_adds (products : List Nat) (reason : String) (outcome : RemoteOutcome) :
    Adds Desk.fate (if !products.isEmpty then releaseProducts products reason outcome else pure ())
      (.ok ()) (spread products { absent := outcome == .absent, unknown := outcome == .unknown }) := by
  by_cases h : products = []
  · subst h
    exact (Adds.pure ()).congr (spread_nil _).symm
  · exact Adds.ite_pos (by simpa using h) (releaseProducts_adds products reason outcome)

theorem failEntry_adds (e : Entry) (reason : String) (outcome : RemoteOutcome) :
    Adds Desk.fate (failEntry e reason outcome) (.ok ()) (owned e (.released false outcome)) := by
  rcases h : e.ownedProduct with - | p
  · have hnone : failEntry e reason outcome = markFailed e := by
      rw [failEntry, h]
    rw [hnone]
    refine (markFailed_adds e).congr ?_
    simp only [owned, h, Option.toList_none, spread_nil]
  · have hsome : failEntry e reason outcome
        = (markFailed e >>= fun _ => releaseProducts [p] reason outcome) := by
      rw [failEntry, h]
    rw [hsome]
    refine ((markFailed_adds e).bind (releaseProducts_adds [p] reason outcome)).congr ?_
    simp only [owned, h]
    exact spread_add [p] _ _

/-! ### One create -/

namespace PostRemote

variable (remote : PostRemote)

/-- Is there another attempt after attempt `i`? -/
def retriesAfter (i : Nat) : Bool :=
  match (remote.answers i).result with
  | .ok (.failure e _) => isRateLimitedResult e && !remote.cancelled i
  | _ => false

/-- The answers to the attempts made, from attempt `i` on. -/
def madeFrom : Nat → Nat → List (WriteAnswer String)
  | 0, i => [remote.answers i]
  | left + 1, i =>
    remote.answers i :: (if remote.retriesAfter i then madeFrom left (i + 1) else [])

/-- The answers to the attempts made. -/
def made : List (WriteAnswer String) :=
  match remote.client with
  | .error _ => []
  | .ok _ => remote.madeFrom (maxRetries - 1) 0

/-- May the marketplace have accepted one of the attempts? -/
def mayHaveWritten : Bool := remote.made.any WriteAnswer.mayHaveWritten

/-- The answer to the last attempt. -/
def outcome : Except PyError (ApiResult String) :=
  match remote.client with
  | .error exc => .error exc
  | .ok _ => ((remote.madeFrom (maxRetries - 1) 0).getLastD (remote.answers 0)).result

/-- The last attempt created an offer. -/
def succeeds : Bool :=
  match remote.outcome with
  | .ok (.success _ _) => true
  | _ => false

theorem postAttempts_adds (products : List Nat) (left i : Nat) (fallback : WriteAnswer String) :
    Adds Desk.fate (postAttempts products remote left i)
      ((remote.madeFrom left i).getLastD fallback).result
      (spread products { exposed := (remote.madeFrom left i).any WriteAnswer.mayHaveWritten }) := by
  induction left generalizing i fallback with
  | zero =>
    have hsend := sendCreate_adds products (remote.answers i)
    exact hsend.congr (by simp [madeFrom])
  | succ left ih =>
    have hsend := sendCreate_adds products (remote.answers i)
    rw [postAttempts]
    by_cases hretry : remote.retriesAfter i = true
    · -- a rate-limited answer: the exposures of this attempt and of the later ones
      have hmade : remote.madeFrom (left + 1) i
          = remote.answers i :: remote.madeFrom left (i + 1) := by
        rw [madeFrom, if_pos hretry]
      unfold retriesAfter at hretry
      rcases hres : (remote.answers i).result with exc | ⟨data, st⟩ | ⟨e, st⟩ <;>
        rw [hres] at hretry hsend
      · cases hretry
      · cases hretry
      · have hlater := ih (i + 1) (remote.answers i)
        rw [hmade, List.getLastD_cons]
        refine Adds.congr (Adds.bind hsend (Adds.ite_pos hretry hlater)) ?_
        rw [spread_add, List.any_cons]
        rfl
    · have hmade : remote.madeFrom (left + 1) i = [remote.answers i] := by
        rw [madeFrom, if_neg hretry]
      rw [hmade]
      unfold retriesAfter at hretry
      show Adds Desk.fate _ (remote.answers i).result _
      rcases hres : (remote.answers i).result with exc | ⟨data, st⟩ | ⟨e, st⟩ <;>
        rw [hres] at hretry hsend
      · exact Adds.congr hsend.bind_error (by simp)
      · exact Adds.congr (Adds.bind hsend (Adds.pure _)) (by simp)
      · exact Adds.congr (Adds.bind hsend (Adds.ite_neg hretry (Adds.pure _))) (by simp)

/-- **What a create with backoff adds.** -/
theorem postWithBackoff_adds (products : List Nat) (remote : PostRemote) :
    Adds Desk.fate (postWithBackoff products remote) remote.outcome
      (spread products { exposed := remote.mayHaveWritten }) := by
  have hknown : Adds Desk.fate (known remote.client) remote.client 0 := Adds.known _
  rcases hc : remote.client with exc | ⟨⟩ <;> rw [hc] at hknown
  · have hout : remote.outcome = .error exc := by
      rw [outcome, hc]
    rw [hout, postWithBackoff, hc]
    refine hknown.bind_error.congr ?_
    rw [mayHaveWritten, made, hc]
    exact (spread_zero products).symm
  · have hattempts := postAttempts_adds remote products (maxRetries - 1) 0 (remote.answers 0)
    rw [outcome, mayHaveWritten, made, postWithBackoff, hc]
    exact (hknown.bind hattempts).congr (zero_add _)

theorem succeeds_iff :
    remote.succeeds = true ↔ ∃ data st, remote.outcome = .ok (.success data st) := by
  unfold succeeds
  split
  · rename_i data st h
    exact iff_of_true rfl ⟨data, st, h⟩
  · rename_i h
    exact iff_of_false Bool.false_ne_true fun ⟨data, st, heq⟩ => h data st heq

end PostRemote

/-! ### One item -/

/-- Does the fallback go on after this candidate? -/
def FallbackRemote.passedOver (candidate : FallbackRemote) : Bool :=
  match candidate.build with
  | .error _ => true
  | .ok _ =>
    match candidate.post.outcome with
    | .ok (.failure err _) => isMaxOfferError err
    | _ => false

/-- The candidates the fallback posts. -/
def triedFallbacks : List FallbackRemote → List FallbackRemote
  | [] => []
  | candidate :: rest =>
    (match candidate.build with | .error _ => [] | .ok _ => [candidate]) ++
      (if candidate.passedOver then triedFallbacks rest else [])

/-- The candidate's offer was created and persisted. -/
def FallbackRemote.created (candidate : FallbackRemote) : Prop :=
  candidate.post.succeeds = true ∧ candidate.persist = .ok ()

/-- What the fallback adds; it returns true exactly when it created an offer. -/
theorem retryWithVariantFallback_adds (e : Entry) (candidates : List FallbackRemote) :
    ∃ r, Adds Desk.fate (retryWithVariantFallback e candidates) r
        (owned e { exposed := (triedFallbacks candidates).any fun c => c.post.mayHaveWritten }) ∧
      (r = .ok true ↔ ∃ c ∈ triedFallbacks candidates, c.created) := by
  induction candidates with
  | nil =>
    refine ⟨.ok false, (Adds.pure false).congr ?_, by simp [triedFallbacks]⟩
    exact (spread_blank _).symm
  | cons candidate rest ih =>
    obtain ⟨r, hrest, hr⟩ := ih
    rw [retryWithVariantFallback]
    rcases hbuild : candidate.build with error | data
    · -- the candidate cannot be built: nothing is sent for it
      have htried : triedFallbacks (candidate :: rest) = triedFallbacks rest := by
        simp [triedFallbacks, FallbackRemote.passedOver, hbuild]
      rw [htried]
      exact ⟨r, hrest, hr⟩
    · have hpost := PostRemote.postWithBackoff_adds e.ownedProduct.toList candidate.post
      rcases hout : candidate.post.outcome with exc | ⟨id, st⟩ | ⟨err, st⟩ <;> rw [hout] at hpost
      · have htried : triedFallbacks (candidate :: rest) = [candidate] := by
          simp [triedFallbacks, FallbackRemote.passedOver, hbuild, hout]
        rw [htried]
        refine ⟨.error exc, Adds.congr hpost.bind_error (by simp), ?_⟩
        simp [FallbackRemote.created, PostRemote.succeeds, hout]
      · have htried : triedFallbacks (candidate :: rest) = [candidate] := by
          simp [triedFallbacks, FallbackRemote.passedOver, hbuild, hout]
        rw [htried]
        rcases hpersist : candidate.persist with exc | ⟨⟩
        · refine ⟨.error exc, Adds.congr (Adds.bind hpost ?_) (add_zero _) |>.congr (by simp), ?_⟩
          · exact (Adds.known _).bind_error
          · simp [FallbackRemote.created, hpersist]
        · refine ⟨.ok true, Adds.congr (Adds.bind hpost ?_) (add_zero _) |>.congr (by simp), ?_⟩
          · exact Adds.congr (Adds.bind (Adds.known _) (Adds.pure true)) (add_zero _)
          · simp [FallbackRemote.created, PostRemote.succeeds, hout, hpersist]
      · by_cases hmax : isMaxOfferError err = true
        · have htried : triedFallbacks (candidate :: rest) = candidate :: triedFallbacks rest := by
            simp [triedFallbacks, FallbackRemote.passedOver, hbuild, hout, hmax]
          rw [htried]
          refine ⟨r, Adds.congr (Adds.bind hpost (Adds.ite_pos hmax hrest)) ?_, ?_⟩
          · rw [spread_add, List.any_cons]
            rfl
          · simp [FallbackRemote.created, PostRemote.succeeds, hout, hr]
        · have htried : triedFallbacks (candidate :: rest) = [candidate] := by
            simp [triedFallbacks, FallbackRemote.passedOver, hbuild, hout, hmax]
          rw [htried]
          refine ⟨.ok false, Adds.congr (Adds.bind hpost (Adds.ite_neg hmax (Adds.pure false))) ?_, ?_⟩
          · simp
          · simp [FallbackRemote.created, PostRemote.succeeds, hout]

/-- The step after a create succeeds. -/
def Published (ctx : StoreContext) (list : Except PyError Unit) : Prop :=
  ctx.marketplace = .gameboost → list = .ok ()

instance (ctx : StoreContext) (list : Except PyError Unit) : Decidable (Published ctx list) :=
  inferInstanceAs (Decidable (ctx.marketplace = .gameboost → list = .ok ()))

theorem publishCreated_adds (ctx : StoreContext) (list : Except PyError Unit) :
    ∃ r, Adds Desk.fate (publishCreated ctx list) r 0 ∧ (r = .ok () ↔ Published ctx list) := by
  unfold publishCreated Published
  by_cases hm : ctx.marketplace = .gameboost
  · exact ⟨list, Adds.ite_pos hm (Adds.known list), by simp [hm]⟩
  · exact ⟨.ok (), Adds.ite_neg hm (Adds.pure ()), by simp [hm]⟩

/-- The fallback candidates posted for an item. -/
def ItemRemote.tried (ctx : StoreContext) (remote : ItemRemote) : List FallbackRemote :=
  match remote.post.outcome with
  | .ok (.failure err _) => if startsFallback ctx err then triedFallbacks remote.fallback else []
  | _ => []

/-- **When a streamed item is released soundly.**  The payload was not built;
or no request made for it could have been accepted; or an offer was created
and the steps up to its persistence (for a fallback, this one included) went
through. -/
def ItemRemote.Clean (ctx : StoreContext) (remote : ItemRemote) : Prop :=
  (∃ error, remote.build = .error error) ∨
    (remote.post.mayHaveWritten = false ∧
      ∀ c ∈ remote.tried ctx, c.post.mayHaveWritten = false) ∨
    (remote.post.succeeds = true ∧ Published ctx remote.list) ∨
    ∃ c ∈ remote.tried ctx, c.created

/-- Stage 1: its exception is sound exactly when nothing was exposed. -/
theorem createItem_adds (ctx : StoreContext) (e : Entry) (remote : ItemRemote) :
    ∃ r b, Adds Desk.fate (createItem ctx e remote) r (owned e { exposed := b }) ∧
      (b = false ∨ (∃ created, r = .ok created) ↔ remote.Clean ctx) := by
  unfold createItem ItemRemote.Clean
  rcases hbuild : remote.build with error | data
  · exact ⟨_, false, (Adds.throw _).congr (spread_blank _).symm, by simp⟩
  · have hpost := PostRemote.postWithBackoff_adds e.ownedProduct.toList remote.post
    rcases hout : remote.post.outcome with exc | ⟨id, st⟩ | ⟨err, st⟩ <;> rw [hout] at hpost
    · have htried : remote.tried ctx = [] := by
        rw [ItemRemote.tried, hout]
      refine ⟨.error exc, _, hpost.bind_error, ?_⟩
      simp [htried, PostRemote.succeeds, hout]
    · have htried : remote.tried ctx = [] := by
        rw [ItemRemote.tried, hout]
      have hsucceeds : remote.post.succeeds = true := remote.post.succeeds_iff.mpr ⟨id, st, hout⟩
      obtain ⟨r, hpublish, hr⟩ := publishCreated_adds ctx remote.list
      rcases r with exc | ⟨⟩
      · refine ⟨.error exc, _, Adds.congr (Adds.bind hpost hpublish.bind_error) (add_zero _), ?_⟩
        simp [htried, hsucceeds, ← hr]
      · refine ⟨.ok true, remote.post.mayHaveWritten,
          Adds.congr (Adds.bind hpost (Adds.bind hpublish (Adds.pure true))) ?_, ?_⟩
        · rw [add_zero, add_zero]
        · simp [hsucceeds, ← hr]
    · have hfails : remote.post.succeeds = false := by
        rw [PostRemote.succeeds, hout]
      by_cases hstart : startsFallback ctx err = true
      · have htried : remote.tried ctx = triedFallbacks remote.fallback := by
          simp only [ItemRemote.tried, hout, hstart, if_true]
        obtain ⟨r, hfallback, hr⟩ := retryWithVariantFallback_adds e remote.fallback
        obtain ⟨t, ht⟩ : ∃ t, ((triedFallbacks remote.fallback).any fun c =>
          c.post.mayHaveWritten) = t := ⟨_, rfl⟩
        have hquiet : (∀ c ∈ triedFallbacks remote.fallback, c.post.mayHaveWritten = false) ↔
            t = false := by
          rw [← ht]
          simp
        have hsum := spread_add e.ownedProduct.toList { exposed := remote.post.mayHaveWritten }
          { exposed := t }
        rw [ht] at hfallback
        rw [htried, hfails, hquiet, ← hr]
        rcases r with exc | ⟨_ | _⟩
        · refine ⟨.error exc, remote.post.mayHaveWritten || t,
            Adds.congr (Adds.bind hpost (Adds.ite_pos hstart hfallback.bind_error)) hsum, ?_⟩
          simp
        · refine ⟨.error _, remote.post.mayHaveWritten || t, Adds.congr (Adds.bind hpost
            (Adds.ite_pos hstart (Adds.bind hfallback (Adds.throw _)))) ?_, ?_⟩
          · rw [add_zero]
            exact hsum
          · simp
        · refine ⟨.ok false, remote.post.mayHaveWritten || t, Adds.congr (Adds.bind hpost
            (Adds.ite_pos hstart (Adds.bind hfallback (Adds.pure false)))) ?_, ?_⟩
          · rw [add_zero]
            exact hsum
          · simp
      · have htried : remote.tried ctx = [] := by
          simp only [ItemRemote.tried, hout, if_neg hstart]
        refine ⟨.error _, _, Adds.congr (Adds.bind hpost (Adds.ite_neg hstart (Adds.throw _)))
          (add_zero _), ?_⟩
        simp [htried, hfails]

/-- **What one item adds.** -/
theorem processItem_adds (ctx : StoreContext) (e : Entry) (remote : ItemRemote) :
    ∃ f, Adds Desk.fate (processItem ctx e remote) (.ok ()) (owned e f) ∧
      (f.Sound ↔ remote.Clean ctx) := by
  obtain ⟨r, b, hcreate, hclean⟩ := createItem_adds ctx e remote
  rw [← hclean]
  unfold processItem
  rcases r with exc | created
  · -- stage 1 raised: the product is released as absent
    refine ⟨.released b .absent, Adds.congr (Adds.bind (Adds.catching_error hcreate
      (Adds.bind (failEntry_adds e exc.str .absent) (Adds.pure false))) (Adds.pure ())) ?_, ?_⟩
    · rw [add_zero, add_zero, spread_add, Fate.exposed_add_released]
    · simp
  · rcases created with _ | _
    · refine ⟨{ exposed := b }, Adds.congr (Adds.bind hcreate.catching (Adds.pure ()))
        (add_zero _), ?_⟩
      exact iff_of_true (Fate.sound_of_not_failed rfl rfl) (.inr ⟨false, rfl⟩)
    · rcases hpersist : remote.persist with exc | ⟨⟩
      · refine ⟨.released b .unknown, Adds.congr (Adds.bind hcreate.catching
          (Adds.catching_error (Adds.known _) (failEntry_adds e exc.str .unknown))) ?_, ?_⟩
        · rw [zero_add, spread_add, Fate.exposed_add_released]
        · exact iff_of_true (Fate.sound_released_unknown b) (.inr ⟨true, rfl⟩)
      · refine ⟨{ exposed := b }, Adds.congr (Adds.bind hcreate.catching
          (Adds.catching (Adds.known _))) (add_zero _), ?_⟩
        exact iff_of_true (Fate.sound_of_not_failed rfl rfl) (.inr ⟨true, rfl⟩)

/-! ### One offer with all credentials -/

namespace BatchRemote

variable (remote : BatchRemote)

/-- The payload built for an item, if one is. -/
def data (k : Nat) : Option BuildData :=
  if remote.cancelled k then none
  else
    match remote.build k with
    | .error _ => none
    | .ok data => some data

/-- What the build loop leaves for an item it does not build. -/
def buildFate (k : Nat) : Fate :=
  if remote.cancelled k then 0
  else
    match remote.build k with
    | .error _ => { failed := true }
    | .ok _ => 0

/-- What the batch leaves for an item, when every built entry is left `final`. -/
def itemFate (final : Fate) (k : Nat) : Fate :=
  match remote.data k with
  | none => remote.buildFate k
  | some data =>
    { exposed := remote.post.mayHaveWritten && !data.credentials.isEmpty } + final

theorem itemFate_none {final : Fate} {k : Nat} (h : remote.data k = none) :
    remote.itemFate final k = remote.buildFate k := by
  rw [itemFate, h]

theorem itemFate_some {final : Fate} {k : Nat} {data : BuildData}
    (h : remote.data k = some data) :
    remote.itemFate final k =
      { exposed := remote.post.mayHaveWritten && !data.credentials.isEmpty } + final := by
  rw [itemFate, h]

theorem buildFate_exposed (k : Nat) : (remote.buildFate k).exposed = false := by
  unfold buildFate
  split
  · rfl
  · split <;> rfl

theorem buildFate_of_data {k : Nat} {data : BuildData} (h : remote.data k = some data) :
    remote.buildFate k = 0 := by
  unfold BatchRemote.data at h
  unfold buildFate
  by_cases hc : remote.cancelled k = true
  · rw [if_pos hc] at h
    cases h
  · rw [if_neg hc] at h ⊢
    rcases hb : remote.build k with error | data'
    · rw [hb] at h
      cases h
    · rfl

/-- The entries built, in order. -/
def built (entries : List Entry) : List (Entry × BuildData) :=
  entries.filterMap fun e => (remote.data e.item).map fun data => (e, data)

/-- **When an entry of the batch is released soundly.**  Nothing is built or
sent for it; or no attempt of the create could have been accepted; or the
offer was created and its publication went through. -/
def Clean (ctx : StoreContext) (k : Nat) : Prop :=
  (∀ data, remote.data k = some data → data.credentials = []) ∨
    remote.post.mayHaveWritten = false ∨
    (remote.post.succeeds = true ∧ Published ctx remote.list)

end BatchRemote

theorem buildEntries_adds (remote : BatchRemote) (entries : List Entry) :
    Adds Desk.fate (buildEntries remote entries) (.ok (remote.built entries))
      (entries.map fun e => owned e (remote.buildFate e.item)).sum := by
  induction entries with
  | nil => exact Adds.pure []
  | cons e es ih =>
    rw [List.map_cons, List.sum_cons, buildEntries]
    by_cases hc : remote.cancelled e.item = true
    · have hbuilt : remote.built (e :: es) = remote.built es := by
        simp [BatchRemote.built, BatchRemote.data, hc]
      have hfate : remote.buildFate e.item = 0 := if_pos hc
      rw [hbuilt, hfate, owned_zero, zero_add]
      exact Adds.ite_pos hc ih
    · apply Adds.ite_neg hc
      rcases hb : remote.build e.item with error | data
      · have hbuilt : remote.built (e :: es) = remote.built es := by
          simp [BatchRemote.built, BatchRemote.data, hc, hb]
        have hfate : remote.buildFate e.item = { failed := true } := by
          rw [BatchRemote.buildFate, if_neg hc, hb]
        rw [hbuilt, hfate]
        exact Adds.bind (markFailed_adds e) ih
      · have hbuilt : remote.built (e :: es) = (e, data) :: remote.built es := by
          simp [BatchRemote.built, BatchRemote.data, hc, hb]
        have hfate : remote.buildFate e.item = 0 := by
          rw [BatchRemote.buildFate, if_neg hc, hb]
        rw [hbuilt, hfate, owned_zero]
        exact Adds.congr (Adds.bind ih (Adds.pure _)) (add_comm _ _)

/-- The products of the merged payload, entry by entry. -/
theorem spread_mergedProducts (built : List (Entry × BuildData)) (b : Bool) :
    spread (mergedProducts built) { exposed := b }
      = (built.map fun x => owned x.1 { exposed := b && !x.2.credentials.isEmpty }).sum := by
  have hmerged : mergedProducts built
      = built.filterMap fun x => if x.2.credentials.isEmpty then none else x.1.ownedProduct := by
    unfold mergedProducts builtProducts
    rw [List.filterMap_filter]
    apply List.filterMap_congr
    intro x _
    by_cases h : x.2.credentials.isEmpty = true <;> simp [h]
  rw [hmerged, spread_filterMap]
  congr 1
  apply List.map_congr_left
  intro x _
  by_cases h : x.2.credentials.isEmpty = true <;> simp [h]

theorem failBatch_adds (built : List (Entry × BuildData)) (reason : String)
    (outcome : RemoteOutcome) :
    Adds Desk.fate (failBatch built reason outcome) (.ok ())
      (built.map fun x => owned x.1 (.released false outcome)).sum := by
  have hmark : Adds Desk.fate (each built fun x => markFailed x.1) (.ok ())
      (built.map fun x => owned x.1 { failed := true }).sum :=
    Adds.each fun x _ => markFailed_adds x.1
  refine Adds.congr (Adds.bind hmark (releaseProducts_adds _ reason outcome)) ?_
  rw [builtProducts, spread_filterMap, ← List.sum_map_add]
  congr 1
  apply List.map_congr_left
  intro x _
  exact spread_add _ _ _

/-- The create of the batch; its exception is sound exactly when nothing was
exposed. -/
theorem createBatch_adds (ctx : StoreContext) (remote : BatchRemote) (products : List Nat) :
    ∃ r, Adds Desk.fate (createBatch ctx remote products) r
        (spread products { exposed := remote.post.mayHaveWritten }) ∧
      (r = .ok () ↔ remote.post.succeeds = true ∧ Published ctx remote.list) := by
  unfold createBatch
  have hpost := PostRemote.postWithBackoff_adds products remote.post
  rcases hout : remote.post.outcome with exc | ⟨id, st⟩ | ⟨err, st⟩ <;> rw [hout] at hpost
  · exact ⟨.error exc, hpost.bind_error, by simp [PostRemote.succeeds, hout]⟩
  · obtain ⟨r, hpublish, hr⟩ := publishCreated_adds ctx remote.list
    refine ⟨r, Adds.congr (Adds.bind hpost hpublish) (add_zero _), ?_⟩
    simp [PostRemote.succeeds, hout, hr]
  · refine ⟨.error _, Adds.congr (Adds.bind hpost (Adds.throw _)) (add_zero _), ?_⟩
    simp [PostRemote.succeeds, hout]

/-- The create, its failure and the persistence, per built entry. -/
theorem postBuilt_adds (ctx : StoreContext) (remote : BatchRemote)
    (built : List (Entry × BuildData)) :
    ∃ final : Fate, Adds Desk.fate
        (do
          let created ← catching
            (do
              createBatch ctx remote (mergedProducts built)
              pure true)
            fun exc => do
              failBatch built exc.str .absent
              pure false
          if created then
            catching (known remote.persist) fun exc => failBatch built exc.str .unknown)
        (.ok ())
        (built.map fun x => owned x.1
          ({ exposed := remote.post.mayHaveWritten && !x.2.credentials.isEmpty } + final)).sum ∧
      ∀ b, (({ exposed := b } : Fate) + final).Sound ↔
        b = false ∨ (remote.post.succeeds = true ∧ Published ctx remote.list) := by
  obtain ⟨r, hcreate, hr⟩ := createBatch_adds ctx remote (mergedProducts built)
  rw [← hr]
  have hsum : ∀ final : Fate,
      spread (mergedProducts built) { exposed := remote.post.mayHaveWritten } +
        (built.map fun x => owned x.1 final).sum
      = (built.map fun x => owned x.1
          ({ exposed := remote.post.mayHaveWritten && !x.2.credentials.isEmpty } + final)).sum := by
    intro final
    rw [spread_mergedProducts, ← List.sum_map_add]
    congr 1
    apply List.map_congr_left
    intro x _
    exact spread_add _ _ _
  rcases r with exc | ⟨⟩
  · refine ⟨.released false .absent, Adds.congr (Adds.bind (Adds.catching_error hcreate.bind_error
      (Adds.bind (failBatch_adds built exc.str .absent) (Adds.pure false))) (Adds.pure ())) ?_, ?_⟩
    · rw [add_zero, add_zero]
      exact hsum _
    · intro b
      rw [Fate.exposed_add_released]
      simp
  · rcases hpersist : remote.persist with exc | ⟨⟩
    · refine ⟨.released false .unknown, Adds.congr (Adds.bind (Adds.catching (Adds.bind hcreate
        (Adds.pure true))) (Adds.catching_error (Adds.known _)
        (failBatch_adds built exc.str .unknown))) ?_, fun b => ?_⟩
      · rw [add_zero, zero_add]
        exact hsum _
      · rw [Fate.exposed_add_released]
        exact iff_of_true (Fate.sound_released_unknown b) (.inr rfl)
    · refine ⟨0, Adds.congr (Adds.bind (Adds.catching (Adds.bind hcreate (Adds.pure true)))
        (Adds.catching (Adds.known _))) ?_, fun b => ?_⟩
      · have hzero : (built.map fun x : Entry × BuildData => owned x.1 0).sum = 0 := by
          simp
        rw [add_zero, ← hsum 0, hzero]
      · rw [add_zero]
        exact iff_of_true (Fate.sound_of_not_failed rfl rfl) (.inr rfl)

/-- **What the batch adds**, entry by entry. -/
theorem processMultiCredBatch_adds (ctx : StoreContext) (entries : List Entry)
    (remote : BatchRemote) :
    ∃ fate : Entry → Fate, Adds Desk.fate (processMultiCredBatch ctx entries remote) (.ok ())
        (entries.map fun e => owned e (fate e)).sum ∧
      ∀ e ∈ entries, ((fate e).Sound ↔ remote.Clean ctx e.item) := by
  have hbuild := buildEntries_adds remote entries
  by_cases hempty : (remote.built entries).isEmpty = true
  · -- nothing was built, so nothing is sent
    refine ⟨fun e => remote.buildFate e.item + { absent := true },
      Adds.congr (Adds.bind hbuild (Adds.ite_pos hempty (releaseAny_adds _ _ .absent))) ?_,
      fun e he => ?_⟩
    · rw [spread_filterMap, ← List.sum_map_add]
      congr 1
      apply List.map_congr_left
      intro e _
      exact spread_add _ _ _
    · refine iff_of_true (Fate.sound_of_not_exposed ?_) (.inl fun data hdata => ?_)
      · show ((remote.buildFate e.item).exposed || false) = false
        rw [remote.buildFate_exposed, Bool.or_false]
      · have hmem : (e, data) ∈ remote.built entries :=
          List.mem_filterMap.mpr ⟨e, he, by rw [hdata]; rfl⟩
        rw [List.isEmpty_iff.mp hempty] at hmem
        cases hmem
  · obtain ⟨final, hpost, hfinal⟩ := postBuilt_adds ctx remote (remote.built entries)
    refine ⟨fun e => remote.itemFate final e.item,
      Adds.congr (Adds.bind hbuild (Adds.ite_neg hempty hpost)) ?_, fun e _ => ?_⟩
    · rw [BatchRemote.built, sum_map_filterMap, ← List.sum_map_add]
      congr 1
      apply List.map_congr_left
      intro e _
      show owned e (remote.buildFate e.item) + _ = owned e (remote.itemFate final e.item)
      rcases hdata : remote.data e.item with - | data
      · rw [remote.itemFate_none hdata]
        exact add_zero _
      · rw [remote.buildFate_of_data hdata, owned_zero, remote.itemFate_some hdata]
        exact zero_add _
    · show (remote.itemFate final e.item).Sound ↔ remote.Clean ctx e.item
      unfold BatchRemote.Clean
      rcases hdata : remote.data e.item with - | data
      · rw [remote.itemFate_none hdata]
        exact iff_of_true (Fate.sound_of_not_exposed (remote.buildFate_exposed _))
          (.inl fun data h => nomatch h)
      · rw [remote.itemFate_some hdata, hfinal]
        by_cases hcred : data.credentials = [] <;>
          rcases hw : remote.post.mayHaveWritten with - | - <;> simp [hcred]

/-! ### PlayerAuctions through the relay -/

namespace RowRemote

variable (row : RowRemote) (retry : Bool)

/-- Is the row posted again? -/
def again : Bool :=
  match postRow row.first with
  | .ok _ => false
  | .error error => retry && isRelayAuthorizationFailure error

/-- The last result of the row. -/
def result : Except String String :=
  if row.again retry then postRow row.second else postRow row.first

/-- Did one of its posts create the offer? -/
def written : Bool :=
  row.first.written || (row.again retry && row.second.written)

/-- **When a posted row is released soundly**: it failed with an error that is
recognized as uncertain, or neither of its posts created the offer. -/
def Clean : Prop :=
  ∀ error, row.result retry = .error error →
    isPaRelayUncertainOutcome error = true ∨ row.written retry = false

/-- What settling the row leaves. -/
def settled : Fate :=
  match row.result retry with
  | .ok _ =>
    match row.persist with
    | .ok _ => 0
    | .error _ => .released false .unknown
  | .error error =>
    .released false (if isPaRelayUncertainOutcome error then .unknown else .absent)

/-- What the row leaves. -/
def fate : Fate := { exposed := row.written retry } + row.settled retry

theorem fate_sound : (row.fate retry).Sound ↔ row.Clean retry := by
  unfold fate settled Clean
  rcases row.result retry with error | id
  · show ({ exposed := _ } + Fate.released false _).Sound ↔ _
    rw [Fate.exposed_add_released]
    by_cases hu : isPaRelayUncertainOutcome error = true <;> simp [hu]
  · refine iff_of_true ?_ fun error h => nomatch h
    rcases row.persist with exc | ⟨⟩
    · show ({ exposed := _ } + Fate.released false .unknown).Sound
      rw [Fate.exposed_add_released]
      exact Fate.sound_released_unknown _
    · show ({ exposed := _ } + (0 : Fate)).Sound
      rw [add_zero]
      exact Fate.sound_of_not_failed rfl rfl

end RowRemote

theorem postBatch_adds (reply : Nat → RelayReply) (entries : List Entry) :
    Adds Desk.fate (postBatch reply entries)
      (.ok (entries.map fun e => (e, postRow (reply e.item))))
      (entries.map fun e => owned e { exposed := (reply e.item).written }).sum := by
  induction entries with
  | nil => exact Adds.pure []
  | cons e es ih =>
    rw [List.map_cons, List.map_cons, List.sum_cons]
    refine Adds.congr (Adds.bind (sendOffer_adds e (reply e.item))
      (Adds.bind ih (Adds.pure _))) ?_
    rw [add_zero]

/-- The retried rows are put back where they came from. -/
theorem mergeRetried_map (second : Nat → RelayReply)
    (rows : List (Entry × Except String String)) :
    mergeRetried rows (((rows.filter isRetryRow).map Prod.fst).map fun e =>
        (e, postRow (second e.item)))
      = rows.map fun row =>
        if isRetryRow row then (row.1, postRow (second row.1.item)) else row := by
  induction rows with
  | nil => rfl
  | cons row rows ih =>
    by_cases h : isRetryRow row = true
    · rw [List.filter_cons_of_pos h, List.map_cons, List.map_cons, List.map_cons, ← ih, if_pos h]
      simp only [mergeRetried, h, if_true]
    · rw [List.filter_cons_of_neg h, List.map_cons, ← ih, if_neg h]
      simp only [mergeRetried, h, if_false, Bool.false_eq_true]

/-- The rows that are posted again. -/
theorem retryAuthorizationFailures_adds (second : Nat → RelayReply) (login refreshed : Bool)
    (rows : List (Entry × Except String String)) :
    Adds Desk.fate (retryAuthorizationFailures second login refreshed rows)
      (.ok (rows.map fun row =>
        if login && refreshed && isRetryRow row then (row.1, postRow (second row.1.item)) else row))
      (rows.map fun row => owned row.1
        { exposed := login && refreshed && isRetryRow row && (second row.1.item).written }).sum := by
  unfold retryAuthorizationFailures
  by_cases hgo : rows.any isRetryRow = true ∧ login = true ∧ refreshed = true
  · obtain ⟨hany, rfl, rfl⟩ := hgo
    have hmerge := mergeRetried_map second rows
    have hsecond := postBatch_adds second ((rows.filter isRetryRow).map Prod.fst)
    simp only [Bool.true_and, Bool.not_true, Bool.or_false, hany, Bool.false_eq_true, if_false,
      ← hmerge]
    refine Adds.congr (Adds.bind hsecond (Adds.pure _)) ?_
    rw [add_zero, List.map_map, sum_map_filter]
    congr 1
    apply List.map_congr_left
    intro row _
    by_cases h : isRetryRow row = true <;> simp [h]
  · -- no row is posted again
    have hnone : ∀ row ∈ rows, (login && refreshed && isRetryRow row) = false := by
      intro row hrow
      by_contra hne
      rw [Bool.not_eq_false, Bool.and_eq_true, Bool.and_eq_true] at hne
      exact hgo ⟨List.any_eq_true.mpr ⟨row, hrow, hne.2⟩, hne.1.1, hne.1.2⟩
    have hrows : (rows.map fun row => if login && refreshed && isRetryRow row then
        (row.1, postRow (second row.1.item)) else row) = rows := by
      refine (List.map_congr_left fun row hrow => ?_).trans (List.map_id rows)
      rw [hnone row hrow]
      rfl
    have hsum : (rows.map fun row => owned row.1
        { exposed := login && refreshed && isRetryRow row && (second row.1.item).written }).sum
        = 0 := by
      refine List.sum_eq_zero fun x hx => ?_
      obtain ⟨row, hrow, rfl⟩ := List.mem_map.mp hx
      rw [hnone row hrow]
      exact spread_blank _
    rw [hrows, hsum]
    by_cases hskip : (!rows.any isRetryRow || !login) = true
    · exact Adds.ite_pos hskip (Adds.pure rows)
    · refine Adds.ite_neg hskip (Adds.ite_pos ?_ (Adds.pure rows))
      rw [Bool.or_eq_true, not_or, Bool.not_eq_true', Bool.not_eq_false, Bool.not_eq_true',
        Bool.not_eq_false] at hskip
      rw [Bool.not_eq_true']
      by_contra hne
      exact hgo ⟨hskip.1, hskip.2, by simpa using hne⟩

theorem RowRemote.again_eq (row : RowRemote) (retry : Bool) (e : Entry) :
    row.again retry = (retry && isRetryRow (e, postRow row.first)) := by
  unfold RowRemote.again isRetryRow
  rcases postRow row.first with error | id
  · rfl
  · exact (Bool.and_false _).symm

theorem settleRow_adds (rows : Nat → RowRemote) (retry : Bool) (e : Entry) :
    Adds Desk.fate
      (settleRow (fun k => (rows k).persist) (e, (rows e.item).result retry)) (.ok ())
      (owned e ((rows e.item).settled retry)) := by
  unfold settleRow RowRemote.settled
  rcases (rows e.item).result retry with error | id
  · exact failEntry_adds e _ _
  · rcases hpersist : (rows e.item).persist with exc | ⟨⟩
    · have hknown : Adds Desk.fate (known (rows e.item).persist) (.error exc) 0 :=
        hpersist ▸ Adds.known _
      have hmark := markFailed_adds e
      have hrelease := releaseProducts_adds e.ownedProduct.toList exc.str .unknown
      refine Adds.congr (Adds.catching_error hknown (Adds.bind hmark hrelease)) ?_
      rw [zero_add, spread_add]
      rfl
    · have hknown : Adds Desk.fate (known (rows e.item).persist) (.ok ()) 0 :=
        hpersist ▸ Adds.known _
      exact Adds.congr (Adds.catching hknown) (owned_zero e).symm

/-- **What posting and settling relay rows adds.** -/
theorem relayRows_adds (rows : Nat → RowRemote) (login refreshed : Bool) (entries : List Entry) :
    Adds Desk.fate (relayRows rows login refreshed entries) (.ok ())
      (entries.map fun e => owned e ((rows e.item).fate (login && refreshed))).sum := by
  have hfirst := postBatch_adds (fun k => (rows k).first) entries
  have hagain := retryAuthorizationFailures_adds (fun k => (rows k).second) login refreshed
    (entries.map fun e => (e, postRow (rows e.item).first))
  have hresult : ((entries.map fun e => (e, postRow (rows e.item).first)).map fun row =>
      if login && refreshed && isRetryRow row then
        (row.1, postRow (rows row.1.item).second) else row)
      = entries.map fun e => (e, (rows e.item).result (login && refreshed)) := by
    rw [List.map_map]
    apply List.map_congr_left
    intro e _
    show (if login && refreshed && isRetryRow (e, postRow (rows e.item).first) then _ else _) = _
    rw [RowRemote.result, (rows e.item).again_eq _ e]
    split <;> rfl
  have hsettle : Adds Desk.fate
      (each (entries.map fun e => (e, (rows e.item).result (login && refreshed)))
        (settleRow fun k => (rows k).persist)) (.ok ())
      (entries.map fun e => owned e ((rows e.item).settled (login && refreshed))).sum :=
    Adds.each_map fun e _ => settleRow_adds rows (login && refreshed) e
  rw [hresult] at hagain
  refine Adds.congr (Adds.bind hfirst (Adds.bind hagain hsettle)) ?_
  rw [List.map_map, ← List.sum_map_add, ← List.sum_map_add]
  congr 1
  apply List.map_congr_left
  intro e _
  show owned e _ + (owned e _ + owned e _) = owned e _
  rw [spread_add, spread_add, RowRemote.fate, RowRemote.written, (rows e.item).again_eq _ e,
    ← add_assoc]
  rfl

/-- What is left of an item of a relay batch. -/
def RowRemote.batchFate (row : RowRemote) (retry : Bool) : Fate :=
  match row.build with
  | .error _ => .released false .absent
  | .ok _ => row.fate retry

theorem RowRemote.batchFate_error {row : RowRemote} {retry : Bool} {error : String}
    (h : row.build = .error error) : row.batchFate retry = .released false .absent := by
  rw [RowRemote.batchFate, h]

theorem RowRemote.batchFate_ok {row : RowRemote} {retry : Bool} {data : BuildData}
    (h : row.build = .ok data) : row.batchFate retry = row.fate retry := by
  rw [RowRemote.batchFate, h]

theorem buildRelayRows_adds (rows : Nat → RowRemote) (entries : List Entry) :
    ∃ built, Adds Desk.fate (buildRelayRows rows entries) (.ok built)
        (entries.map fun e =>
          match (rows e.item).build with
          | .error _ => owned e (.released false .absent)
          | .ok _ => 0).sum ∧
      ∀ fate : Entry → Nat → Fate, (built.map fate).sum
        = (entries.map fun e =>
          match (rows e.item).build with
          | .error _ => 0
          | .ok _ => fate e).sum := by
  induction entries with
  | nil => exact ⟨[], Adds.pure [], fun _ => rfl⟩
  | cons e es ih =>
    obtain ⟨built, hbuild, hsum⟩ := ih
    rw [buildRelayRows, List.map_cons, List.sum_cons]
    rcases hb : (rows e.item).build with error | data
    · refine ⟨built, Adds.bind (failEntry_adds e error .absent) hbuild, fun fate => ?_⟩
      rw [List.map_cons, List.sum_cons, hb, hsum]
      exact (zero_add _).symm
    · refine ⟨e :: built, Adds.congr (Adds.bind hbuild (Adds.pure _)) (add_comm _ _),
        fun fate => ?_⟩
      rw [List.map_cons, List.map_cons, List.sum_cons, List.sum_cons, hb, hsum]

theorem failPaLegacyDisabled_adds (entries : List Entry) :
    Adds Desk.fate (failPaLegacyDisabled entries) (.ok ())
      (entries.map fun e => owned e (.released false .absent)).sum := by
  have hmark : Adds Desk.fate (each entries markFailed) (.ok ())
      (entries.map fun e => owned e { failed := true }).sum :=
    Adds.each fun e _ => markFailed_adds e
  refine Adds.congr (Adds.bind hmark (releaseAny_adds _ _ .absent)) ?_
  rw [spread_filterMap, ← List.sum_map_add]
  congr 1
  apply List.map_congr_left
  intro e _
  exact spread_add _ _ _

/-! ### PlayerAuctions through the official API -/

/-- **When an official create is released soundly**: by the answer, a numeric
offer id, a refusal, a failure that counts as retryable, or an exception. -/
def OfficialRemote.Clean (remote : OfficialRemote) : Prop :=
  (∃ error, remote.build = .error error) ∨
    match remote.answer with
    | .success id => isDigitText (stripText id) = true
    | .refused _ => True
    | .uncertain err => err.isRetryable = true
    | .raised _ => True

/-- The body of the `try`: a write failure it reports is sound if it counts as
retryable, or nothing was exposed. -/
theorem createOfficial_adds (e : Entry) (remote : OfficialRemote) :
    ∃ r b, Adds Desk.fate (createOfficial e remote) r (owned e { exposed := b }) ∧
      ((∀ failure, r = .ok (some failure) → failure.retryable = true ∨ b = false) ↔
        remote.Clean) := by
  unfold createOfficial OfficialRemote.Clean
  rcases hbuild : remote.build with error | data
  · refine ⟨.error _, false, (Adds.throw _).congr (spread_blank _).symm, ?_⟩
    exact iff_of_true (fun failure h => nomatch h) (.inl ⟨error, rfl⟩)
  · have hsend := sendCreate_adds e.ownedProduct.toList remote.answer
    rcases hanswer : remote.answer with id | err | err | exc <;> rw [hanswer] at hsend
    · by_cases hdigit : isDigitText (stripText id) = true
      · rcases hpersist : remote.persist with exc | ⟨⟩
        · refine ⟨.error exc, true, Adds.congr (Adds.bind hsend (Adds.ite_pos hdigit
            (Adds.bind_error (Adds.known _)))) (add_zero _), ?_⟩
          exact iff_of_true (fun failure h => nomatch h) (.inr hdigit)
        · refine ⟨.ok none, true, Adds.congr (Adds.bind hsend (Adds.ite_pos hdigit
            (Adds.bind (Adds.known _) (Adds.pure none)))) ?_, ?_⟩
          · rw [add_zero, add_zero]
            rfl
          · exact iff_of_true (fun failure h => nomatch h) (.inr hdigit)
      · -- the offer exists, but the failure says that it is not retryable
        refine ⟨_, true, Adds.congr (Adds.bind hsend (Adds.ite_neg hdigit (Adds.pure _)))
          (add_zero _), ?_⟩
        simp [hdigit]
    · refine ⟨_, false, Adds.congr (Adds.bind hsend (Adds.pure _)) (add_zero _), ?_⟩
      simp
    · refine ⟨_, true, Adds.congr (Adds.bind hsend (Adds.pure _)) (add_zero _), ?_⟩
      simp
    · refine ⟨.error exc, true, Adds.bind_error hsend, ?_⟩
      simp

/-- **What one official create adds.** -/
theorem processPaOfficial_adds (e : Entry) (remote : OfficialRemote) :
    ∃ f, Adds Desk.fate (processPaOfficial e remote) (.ok ()) (owned e f) ∧
      (f.Sound ↔ remote.Clean) := by
  obtain ⟨r, b, hcreate, hclean⟩ := createOfficial_adds e remote
  rw [← hclean]
  unfold processPaOfficial
  have hreleased : ∀ outcome, owned e { exposed := b } + owned e (.released false outcome)
      = owned e (.released b outcome) := by
    intro outcome
    rw [spread_add, Fate.exposed_add_released]
  rcases r with exc | _ | failure
  · refine ⟨.released b .unknown, Adds.congr (Adds.bind (Adds.catching_error
      hcreate.bind_error (Adds.pure _)) (failEntry_adds e _ .unknown)) ?_, ?_⟩
    · rw [add_zero]
      exact hreleased .unknown
    · exact iff_of_true (Fate.sound_released_unknown b) fun failure h => nomatch h
  · refine ⟨{ exposed := b }, Adds.congr (Adds.bind (Adds.catching
      (Adds.bind hcreate (Adds.pure _))) (Adds.pure ())) ?_, ?_⟩
    · rw [add_zero, add_zero]
    · exact iff_of_true (Fate.sound_of_not_failed rfl rfl) fun failure h => nomatch h
  · refine ⟨.released b (if failure.retryable then .unknown else .absent),
      Adds.congr (Adds.bind (Adds.catching (Adds.bind hcreate (Adds.pure _)))
        (failEntry_adds e _ _)) ?_, ?_⟩
    · rw [add_zero]
      exact hreleased _
    · by_cases hretry : failure.retryable = true <;> simp [hretry]

/-! ### PlayerAuctions batches -/

/-- **When an item of the relay batch is released soundly.** -/
def PaBatchRemote.Clean (remote : PaBatchRemote) (k : Nat) : Prop :=
  match remote.client with
  | none => True
  | some true => (remote.official k).Clean
  | some false =>
    remote.legacyDisabled = true ∨ remote.session.usable = false ∨
      (∃ error, (remote.rows k).build = .error error) ∨
      (remote.rows k).Clean
        (remote.session.password && remote.session.storeSlug && remote.session.refreshed)

theorem processPaRelayBatch_adds (entries : List Entry) (remote : PaBatchRemote) :
    ∃ fate : Entry → Fate, Adds Desk.fate (processPaRelayBatch entries remote) (.ok ())
        (entries.map fun e => owned e (fate e)).sum ∧
      ∀ e, (fate e).Sound ↔ remote.Clean e.item := by
  have hsound : (Fate.released false .absent).Sound := Fate.sound_of_not_exposed rfl
  unfold processPaRelayBatch PaBatchRemote.Clean
  rcases hclient : remote.client with - | ⟨_ | _⟩
  · exact ⟨fun _ => .released false .absent, failPaLegacyDisabled_adds entries,
      fun e => iff_of_true hsound trivial⟩
  · by_cases hlegacy : remote.legacyDisabled = true
    · exact ⟨fun _ => .released false .absent,
        Adds.ite_pos hlegacy (failPaLegacyDisabled_adds entries),
        fun e => iff_of_true hsound (.inl hlegacy)⟩
    · by_cases husable : remote.session.usable = true
      · obtain ⟨built, hbuild, hbuilt⟩ := buildRelayRows_adds remote.rows entries
        have hrows := relayRows_adds remote.rows
          (remote.session.password && remote.session.storeSlug) remote.session.refreshed built
        refine ⟨fun e => (remote.rows e.item).batchFate
            (remote.session.password && remote.session.storeSlug && remote.session.refreshed),
          Adds.ite_neg hlegacy (Adds.ite_neg (by simp [husable])
            (Adds.congr (Adds.bind hbuild hrows) ?_)), fun e => ?_⟩
        · rw [hbuilt, ← List.sum_map_add]
          congr 1
          apply List.map_congr_left
          intro e _
          show _ = owned e ((remote.rows e.item).batchFate _)
          rcases hb : (remote.rows e.item).build with error | data
          · rw [RowRemote.batchFate_error hb]
            exact add_zero (owned e _)
          · rw [RowRemote.batchFate_ok hb]
            exact zero_add (owned e _)
        · show ((remote.rows e.item).batchFate _).Sound ↔ _
          rcases hb : (remote.rows e.item).build with error | data
          · rw [RowRemote.batchFate_error hb]
            exact iff_of_true hsound (.inr (.inr (.inl ⟨error, rfl⟩)))
          · rw [RowRemote.batchFate_ok hb, RowRemote.fate_sound]
            simp [hlegacy, husable]
      · refine ⟨fun _ => .released false .absent,
          Adds.ite_neg hlegacy (Adds.ite_pos (by simp [husable]) ?_),
          fun e => iff_of_true hsound (.inr (.inl (Bool.eq_false_iff.mpr husable)))⟩
        exact Adds.each fun e _ => failEntry_adds e _ .absent
  · choose fate hadds hfate using fun e : Entry => processPaOfficial_adds e (remote.official e.item)
    exact ⟨fate, Adds.each fun e _ => hadds e, hfate⟩

/-- **When an item of the bulk consumer is released soundly.** -/
def BulkRemote.Clean (remote : BulkRemote) (k : Nat) : Prop :=
  remote.legacyDisabled = true ∨ remote.cancelled k = true ∨
    (∃ error, remote.build k = .error error) ∨
    if remote.officialOnly then
      OfficialRemote.Clean { remote.official k with build := .ok {} }
    else
      remote.session.usable = false ∨
        (remote.rows k).Clean (remote.session.password && remote.session.refreshed)

/-- The flush of a batch: the fates do not depend on how the queue is cut. -/
theorem flushPaBatch_adds (remote : BulkRemote) :
    ∃ fate : Entry → Fate,
      (∀ batch, Adds Desk.fate (flushPaBatch remote batch) (.ok ())
        (batch.map fun e => owned e (fate e)).sum) ∧
      ∀ e, (fate e).Sound ↔
        if remote.officialOnly then
          OfficialRemote.Clean { remote.official e.item with build := .ok {} }
        else
          remote.session.usable = false ∨
            (remote.rows e.item).Clean (remote.session.password && remote.session.refreshed) := by
  unfold flushPaBatch
  by_cases hofficial : remote.officialOnly = true
  · choose fate hadds hfate using fun e : Entry =>
      processPaOfficial_adds e { remote.official e.item with build := .ok {} }
    refine ⟨fate, fun batch => Adds.ite_pos hofficial (Adds.each fun e _ => hadds e), fun e => ?_⟩
    rw [if_pos hofficial]
    exact hfate e
  · by_cases husable : remote.session.usable = true
    · refine ⟨fun e => (remote.rows e.item).fate
          (remote.session.password && remote.session.refreshed),
        fun batch => Adds.ite_neg hofficial (Adds.ite_pos husable
          (relayRows_adds remote.rows _ _ batch)), fun e => ?_⟩
      rw [if_neg hofficial, husable, RowRemote.fate_sound]
      simp
    · refine ⟨fun _ => .released false .absent, fun batch => Adds.ite_neg hofficial
        (Adds.ite_neg husable (Adds.each_map fun e _ => ?_)), fun e => ?_⟩
      · have hcertain : isPaRelayUncertainOutcome noTokenMessage = false := by decide
        have hfail := failEntry_adds e (relayFailureMessage noTokenMessage) .absent
        unfold settleRow
        simp only [hcertain, Bool.false_eq_true, if_false]
        exact hfail
      · rw [if_neg hofficial]
        exact iff_of_true (Fate.sound_of_not_exposed rfl) (.inl (Bool.eq_false_iff.mpr husable))

/-- What is left of an item of the bulk consumer. -/
def BulkRemote.itemFate (remote : BulkRemote) (flushed : Entry → Fate) (e : Entry) : Fate :=
  if remote.cancelled e.item then 0
  else
    match remote.build e.item with
    | .error _ => { failed := true }
    | .ok _ => flushed e

theorem drainBulk_adds {remote : BulkRemote} {flushed : Entry → Fate}
    (hflush : ∀ batch, Adds Desk.fate (flushPaBatch remote batch) (.ok ())
      (batch.map fun e => owned e (flushed e)).sum) (accumulator entries : List Entry) :
    Adds Desk.fate (drainBulk remote accumulator entries) (.ok ())
      ((accumulator.map fun e => owned e (flushed e)).sum +
        (entries.map fun e => owned e (remote.itemFate flushed e)).sum) := by
  induction entries generalizing accumulator with
  | nil =>
    rw [List.map_nil, List.sum_nil, add_zero, drainBulk]
    by_cases hempty : accumulator = []
    · subst hempty
      exact Adds.pure ()
    · exact Adds.ite_neg (by simpa using hempty) (hflush accumulator)
  | cons e es ih =>
    rw [List.map_cons, List.sum_cons, drainBulk]
    by_cases hcancelled : remote.cancelled e.item = true
    · have hfate : remote.itemFate flushed e = 0 := if_pos hcancelled
      rw [hfate, owned_zero, zero_add]
      exact Adds.ite_pos hcancelled (ih accumulator)
    · apply Adds.ite_neg hcancelled
      rcases hb : remote.build e.item with error | data
      · have hfate : remote.itemFate flushed e = { failed := true } := by
          rw [BulkRemote.itemFate, if_neg hcancelled, hb]
        rw [hfate, add_left_comm]
        exact Adds.bind (markFailed_adds e) (ih accumulator)
      · -- the entry joins the accumulator, flushed now or later
        have hfate : remote.itemFate flushed e = flushed e := by
          rw [BulkRemote.itemFate, if_neg hcancelled, hb]
        have hjoin : ((accumulator ++ [e]).map fun e => owned e (flushed e)).sum
            = (accumulator.map fun e => owned e (flushed e)).sum + owned e (flushed e) := by
          rw [List.map_append, List.sum_append, List.map_cons, List.map_nil, List.sum_singleton]
        rw [hfate, ← add_assoc, ← hjoin]
        by_cases hfull : (accumulator ++ [e]).length ≥ paBatchSize
        · refine Adds.ite_pos hfull (Adds.bind (hflush (accumulator ++ [e])) ?_)
          have hrest := ih []
          rwa [List.map_nil, List.sum_nil, zero_add] at hrest
        · exact Adds.ite_neg hfull (ih (accumulator ++ [e]))

/-! ### Store threads -/

/-- **When a store thread releases an item soundly.** -/
def StoreThread.Clean (e : Entry) : StoreThread → Prop
  | .multiCred ctx _ remote => remote.Clean ctx e.item
  | .relay _ remote => remote.Clean e.item
  | .streaming ctx _ remote => (remote e.item).skipped = true ∨ (remote e.item).Clean ctx
  | .bulk _ remote => remote.Clean e.item

theorem streamed_adds (ctx : StoreContext) (e : Entry) (remote : ItemRemote) :
    ∃ f, Adds Desk.fate (if remote.skipped then pure () else processItem ctx e remote) (.ok ())
        (owned e f) ∧
      (f.Sound ↔ remote.skipped = true ∨ remote.Clean ctx) := by
  by_cases hskip : remote.skipped = true
  · exact ⟨0, Adds.ite_pos hskip ((Adds.pure ()).congr (owned_zero e).symm),
      iff_of_true Fate.sound_zero (.inl hskip)⟩
  · obtain ⟨f, hadds, hsound⟩ := processItem_adds ctx e remote
    refine ⟨f, Adds.ite_neg hskip hadds, ?_⟩
    rw [hsound]
    simp [hskip]

theorem StoreThread.program_adds (t : StoreThread) :
    ∃ fate : Entry → Fate, Adds Desk.fate t.program (.ok ())
        (t.entries.map fun e => owned e (fate e)).sum ∧
      ∀ e ∈ t.entries, ((fate e).Sound ↔ t.Clean e) := by
  cases t with
  | multiCred ctx entries remote => exact processMultiCredBatch_adds ctx entries remote
  | relay entries remote =>
    obtain ⟨fate, hadds, hfate⟩ := processPaRelayBatch_adds entries remote
    exact ⟨fate, hadds, fun e _ => hfate e⟩
  | streaming ctx entries remote =>
    choose fate hadds hfate using fun e : Entry => streamed_adds ctx e (remote e.item)
    exact ⟨fate, Adds.each fun e _ => hadds e, fun e _ => hfate e⟩
  | bulk entries remote =>
    unfold StoreThread.program StoreThread.Clean BulkRemote.Clean
    by_cases hlegacy : remote.legacyDisabled = true
    · refine ⟨fun _ => .released false .absent, Adds.ite_pos hlegacy ?_, fun e _ => ?_⟩
      · show Adds Desk.fate _ _ (entries.map fun e => owned e (.released false .absent)).sum
        by_cases hempty : entries = []
        · subst hempty
          exact Adds.pure ()
        · exact Adds.ite_neg (by simpa using hempty) (failPaLegacyDisabled_adds entries)
      · exact iff_of_true (Fate.sound_of_not_exposed rfl) (.inl hlegacy)
    · obtain ⟨flushed, hflush, hsound⟩ := flushPaBatch_adds remote
      refine ⟨remote.itemFate flushed,
        Adds.ite_neg hlegacy ((drainBulk_adds hflush [] entries).congr (zero_add _)),
        fun e _ => ?_⟩
      by_cases hcancelled : remote.cancelled e.item = true
      · rw [BulkRemote.itemFate, if_pos hcancelled]
        exact iff_of_true Fate.sound_zero (.inr (.inl hcancelled))
      · rcases hb : remote.build e.item with error | data
        · rw [BulkRemote.itemFate, if_neg hcancelled, hb]
          exact iff_of_true (Fate.sound_of_not_exposed rfl) (.inr (.inr (.inl ⟨error, hb⟩)))
        · rw [BulkRemote.itemFate, if_neg hcancelled, hb]
          show (flushed e).Sound ↔ _
          rw [hsound]
          simp [hlegacy, hcancelled, hb]

/-! ### The releases of a thread -/

/-- **Which releases are sound.**  A dispatch job has one item for each product
of its reservation, so the products of a thread are distinct.  Then its
releases are sound exactly when every item that has a product is `Clean`. -/
theorem releases_sound_iff (t : StoreThread)
    (hdistinct : (t.entries.filterMap Entry.ownedProduct).Nodup) :
    SoundReleases t.desk ↔ ∀ e ∈ t.entries, e.ownedProduct ≠ none → t.Clean e := by
  obtain ⟨fate, hadds, hfate⟩ := t.program_adds
  have hdesk : t.desk.fate = (t.entries.map fun e => owned e (fate e)).sum := by
    have hstart : Desk.fate {} = 0 := by
      funext p
      simp [Desk.fate, Fate.zero_def]
    rw [StoreThread.desk, hadds.measure_eq, hstart, zero_add]
  rw [soundReleases_iff_fate, hdesk]
  constructor
  · intro h e he hsome
    obtain ⟨p, hp⟩ := Option.ne_none_iff_exists'.mp hsome
    have hsound := h p
    rw [sum_owned hdistinct fate he hp] at hsound
    exact (hfate e he).mp hsound
  · intro h p
    by_cases hmem : p ∈ t.entries.filterMap Entry.ownedProduct
    · obtain ⟨e, he, hp⟩ := List.mem_filterMap.mp hmem
      rw [sum_owned hdistinct fate he hp]
      exact (hfate e he).mpr (h e he (by simp [hp]))
    · rw [sum_owned_of_not_mem hmem]
      exact Fate.sound_zero

/-- One streamed Eldorado item whose create is refused. -/
def refusedThread : StoreThread :=
  .streaming ⟨.eldorado, "valorant"⟩ [⟨1, some 7⟩] fun _ =>
    { build := .ok {}
      post := { answers := fun _ => .refused { category := .validation, message := "bad price" } }
      persist := .ok () }

theorem releases_sound_refused :
    (refusedThread.entries.filterMap Entry.ownedProduct).Nodup ∧
      (SoundReleases refusedThread.desk ↔
        ∀ e ∈ refusedThread.entries, e.ownedProduct ≠ none → refusedThread.Clean e) :=
  ⟨by decide, releases_sound_iff refusedThread (by decide)⟩

/-- The same item, whose create times out. -/
def timedOutThread : StoreThread :=
  .streaming ⟨.eldorado, "valorant"⟩ [⟨1, some 7⟩] fun _ =>
    { build := .ok {}
      post := { answers := fun _ => .uncertain { category := .timeout, message := "timed out" } }
      persist := .ok () }

/-- A create that timed out is released as absent. -/
theorem releases_sound_fails :
    (timedOutThread.entries.filterMap Entry.ownedProduct).Nodup ∧
      ¬SoundReleases timedOutThread.desk := by
  refine ⟨by decide, fun h => ?_⟩
  have hdesk : timedOutThread.desk =
      { exposed := [7]
        failed := [7]
        releases := [⟨[7], "API error: timed out (category=timeout)", .absent⟩] } := by
    decide
  rw [hdesk] at h
  exact h.absent _ List.mem_cons_self rfl 7 List.mem_cons_self List.mem_cons_self

/-! ### The releases against the database -/

/-- The calls of a desk, one after the other. -/
def replayReleases (db : Db) (job : Nat) (calls : List ReleaseCall) : Except PyError Db :=
  calls.foldlM (fun db call =>
    releaseDispatchItemsForJob db job (some call.products) call.reason call.outcome) db

/-- What one call does to a row: nothing, or it names the product. -/
theorem releaseDispatchItemsForJob_row {db db' : Db} {job k : Nat} {products : List Nat}
    {reason : String} {outcome : RemoteOutcome}
    (h : releaseDispatchItemsForJob db job (some products) reason outcome = .ok db')
    {r : ItemRow} (hr : db.item? k = some r) :
    ∃ r', db'.item? k = some r' ∧ r'.ownedProduct = r.ownedProduct ∧
      (r' = r ∨ r.ownedProduct ∈ products ∧ r' = releasedRow reason outcome r) := by
  unfold releaseDispatchItemsForJob at h
  split at h
  · cases h
    exact ⟨r, hr, rfl, .inl rfl⟩
  · rename_i n _
    obtain ⟨released, hitems, h⟩ := except_bind_ok.mp h
    cases h
    obtain ⟨-, hrows⟩ := releaseItems_ok hitems
    have hrow := hrows k
    rw [hr, Option.map_some] at hrow
    by_cases hsel : (isReservedUnder n r && selectsProduct (some products) r.ownedProduct) = true
    · rw [if_pos hsel] at hrow
      refine ⟨_, hrow, ?_, .inr ⟨?_, rfl⟩⟩
      · cases outcome <;> rfl
      · exact List.contains_iff_mem.mp (Bool.and_eq_true _ _ ▸ hsel).2
    · rw [if_neg hsel] at hrow
      exact ⟨r, hrow, rfl, .inl rfl⟩

/-- **Back to PENDING.**  The calls return an item to PENDING only if one of
them names its product as absent. -/
theorem replayReleases_pending {db db' : Db} {job k : Nat} {calls : List ReleaseCall}
    (h : replayReleases db job calls = .ok db') {r r' : ItemRow} (hr : db.item? k = some r)
    (hnot : r.status ≠ .pending) (hr' : db'.item? k = some r') (hpending : r'.status = .pending) :
    ∃ call ∈ calls, call.outcome = .absent ∧ r.ownedProduct ∈ call.products := by
  induction calls generalizing db r with
  | nil =>
    cases h
    cases hr.symm.trans hr'
    exact absurd hpending hnot
  | cons call calls ih =>
    obtain ⟨db₁, hcall, hrest⟩ := except_bind_ok.mp h
    obtain ⟨r₁, hr₁, hproduct, hrow⟩ := releaseDispatchItemsForJob_row hcall hr
    by_cases hstill : r₁.status = .pending
    · -- this call returned the item
      refine ⟨call, List.mem_cons_self, ?_⟩
      rcases hrow with rfl | ⟨hmem, rfl⟩
      · exact absurd hstill hnot
      · refine ⟨?_, hmem⟩
        rcases hout : call.outcome with - | -
        · rfl
        · rw [hout] at hstill
          cases hstill
    · obtain ⟨later, hlater, habsent, hmem⟩ := ih hrest hr₁ hstill
      exact ⟨later, List.mem_cons_of_mem call hlater, habsent, hproduct ▸ hmem⟩

/-- Sound releases never return an exposed product to PENDING. -/
theorem exposed_not_pending {d : Desk} (hsound : SoundReleases d) {db db' : Db} {job k : Nat}
    (h : replayReleases db job d.releases = .ok db') {r r' : ItemRow} (hr : db.item? k = some r)
    (hexposed : r.ownedProduct ∈ d.exposed) (hnot : r.status ≠ .pending)
    (hr' : db'.item? k = some r') : r'.status ≠ .pending := by
  intro hpending
  obtain ⟨call, hcall, habsent, hmem⟩ := replayReleases_pending h hr hnot hr' hpending
  exact hsound.absent call hcall habsent _ hmem hexposed

end Sda
