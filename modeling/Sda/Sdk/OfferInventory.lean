/-
Sda/Sdk/OfferInventory.lean

The inventory of an Eldorado offer under its lease: the pool push
(apps/posting/services/pool/replenisher.py: `_push_eldorado`), the editor
(apps/posting/services/offer_editor.py: `_edit_eldorado`) and the renewal
(apps/sync/services/eldorado/renewal.py, renewal_payload.py).

The three have one course: enter the lease, read the entries of the offer, build the list to
put in their place, and update the offer through the governed client, which enters the lease
once more.  The course may be given up at any moment, by an error, a refusal, or an exception.
A request takes effect, if it does, before the call that has sent it returns.  Other threads
enter and leave leases as they like, and put what they like into an offer while inside of its
lease; the marketplace sells entries at any time.

Main result: `offer_mutation_serializes` — leases exclude each other, are released with the
outermost frame, and a request of one of the three drops no entry.
-/
import Sda.Sdk.OfferLease
import Sda.Sdk.Retry

namespace Sda.Inventory

open Lease Retry

/-! ### Entries -/

/-- The structured details of an entry; `rest` is all but the account. -/
structure DeliveryDetail where
  accountLogin : String
  accountPassword : String
  rest : String := ""
  deriving DecidableEq, Repr

/-- An entry, as `get_offer_account_details` shows it. -/
structure Entry where
  structuredDetails : Option DeliveryDetail
  secretDetails : String
  deriving DecidableEq, Repr

-- `digest` names the lock file of an offer; `ofText` is `secret_text_to_delivery_detail`, and
-- `toText` the text the marketplace shows of an entry
variable (digest : String × String → String) (ofText : String → Option DeliveryDetail)
  (toText : DeliveryDetail → String)

/-- The entry in `preserved_delivery_details`. -/
def preservedEntry (e : Entry) : Option DeliveryDetail :=
  match e.structuredDetails with
  | some d => if d.accountLogin = "" ∨ d.accountPassword = "" then none else some d
  | none => if stripText e.secretDetails = "" then none else ofText (stripText e.secretDetails)

/-- **`preserved_delivery_details`** -/
def preservedDeliveryDetails (entries : List Entry) : Option (List DeliveryDetail) :=
  entries.mapM (preservedEntry ofText)

/-- What `_push_eldorado_locked` puts. -/
def pushPayload (newCreds : List String) (existing : List DeliveryDetail) :
    Option (List DeliveryDetail) :=
  if newCreds.isEmpty then none else (newCreds.mapM ofText).map (existing ++ ·)

/-- What `_edit_eldorado_locked` puts. -/
def editPayload (existing : List DeliveryDetail) : Option (List DeliveryDetail) := some existing

/-- What `build_renewal_payload` puts; `quantity` is the one of the public offer. -/
def renewalPayload (quantity : Nat) (existing : List DeliveryDetail) :
    Option (List DeliveryDetail) :=
  if existing.length = quantity then some existing else none

/-! ### The three cycles -/

inductive CycleKind
  | push (newCreds : List String)
  | edit
  | renew (quantity : Nat)
  deriving DecidableEq, Repr

def CycleKind.payload : CycleKind → List DeliveryDetail → Option (List DeliveryDetail)
  | .push newCreds => pushPayload ofText newCreds
  | .edit => editPayload
  | .renew quantity => renewalPayload quantity

/-- The requests that `update_offer` and `update_offer_once` may send. -/
def CycleKind.requests : CycleKind → Nat
  | .push _ => maxRetryAttempts
  | .edit => maxRetryAttempts
  | .renew _ => 1

inductive Stage
  /-- At the outer `offer_mutation`. -/
  | entering
  /-- The entries are read, and what to put is built. -/
  | merged (payload : List DeliveryDetail)
  /-- At the `offer_mutation` of the governed call. -/
  | updating (payload : List DeliveryDetail)
  /-- In the facade, with the requests it may send yet. -/
  | sending (payload : List DeliveryDetail) (requests : Nat)
  | leaving
  deriving DecidableEq, Repr

/-- What the cycle is to put. -/
def Stage.payload? : Stage → Option (List DeliveryDetail)
  | .merged payload => some payload
  | .updating payload => some payload
  | .sending payload _ => some payload
  | _ => none

/-- A cycle; `base` is the number of frames below it. -/
structure Cycle where
  kind : CycleKind
  store : String
  offerId : String
  base : Nat
  stage : Stage := .entering
  deriving DecidableEq, Repr

/-- The offer of the cycle. -/
def Cycle.name (c : Cycle) : String × String := identifiers c.store c.offerId

structure Shop where
  leases : Leases := {}
  /-- The entries of an offer, at the marketplace. -/
  inventory : String × String → List Entry
  /-- The cycle that a thread is in. -/
  cycles : Nat → Option Cycle := fun _ => none

inductive ShopAction
  | lease (action : LeaseAction)
  | start (thread : Nat) (kind : CycleKind) (store offerId : String) (writesHeld : Bool)
  /-- `ok` says that the read, and what else is checked before it, succeeds. -/
  | read (thread : Nat) (ok : Bool)
  /-- The governed call: its own reading of the hold, and the one of `offer_mutation`. -/
  | update (thread : Nat) (held writesHeld : Bool)
  /-- `ok` says that the governor admits the call. -/
  | slot (thread : Nat) (ok : Bool)
  | send (thread : Nat) (takesEffect : Bool)
  /-- The cycle is at its end, or given up. -/
  | stop (thread : Nat)
  /-- Another governed call, that puts its own entries. -/
  | put (thread : Nat) (store offerId : String) (entries : List Entry)
  | sell (store offerId : String) (index : Nat)
  deriving DecidableEq

/-! ### Steps -/

/-- The statement has yielded True. -/
def admitted (th : Thread) (path : String) : Bool :=
  th.frames.head?.any fun f => f.key == ⟨th.pid, path⟩ && f.admits

def Shop.setStage (s : Shop) (t : Nat) (c : Cycle) (stage : Stage) : Shop :=
  { s with cycles := Function.update s.cycles t (some { c with stage := stage }) }

/-- What the marketplace shows after a request. -/
def putEntries (payload : List DeliveryDetail) : List Entry :=
  payload.map fun d => ⟨some d, toText d⟩

def Shop.setInventory (s : Shop) (name : String × String) (entries : List Entry) : Shop :=
  { s with inventory := Function.update s.inventory name entries }

@[simp] theorem leases_setStage (s : Shop) (t : Nat) (c : Cycle) (stage : Stage) :
    (s.setStage t c stage).leases = s.leases := rfl

@[simp] theorem inventory_setStage (s : Shop) (t : Nat) (c : Cycle) (stage : Stage) :
    (s.setStage t c stage).inventory = s.inventory := rfl

@[simp] theorem leases_setInventory (s : Shop) (name : String × String) (entries : List Entry) :
    (s.setInventory name entries).leases = s.leases := rfl

@[simp] theorem inventory_setInventory (s : Shop) (name : String × String)
    (entries : List Entry) :
    (s.setInventory name entries).inventory = Function.update s.inventory name entries := rfl

/-- A thread in a cycle enters and leaves as the cycle has it. -/
def Shop.permits (s : Shop) : LeaseAction → Bool
  | .on t (.enter _ _ _) => (s.cycles t).isNone
  | .on t .leave => (s.cycles t).all fun c => c.stage == .leaving
  | _ => true

/-- The frames of the cycle are left. -/
def Shop.cycleOver (s : Shop) (t : Nat) : Bool :=
  match s.cycles t, s.leases.threads.get? t with
  | some c, some th => th.frames.length ≤ c.base
  | _, _ => false

def Shop.endCycle (s : Shop) : LeaseAction → Nat → Option Cycle
  | .on t .leave => if s.cycleOver t then Function.update s.cycles t none else s.cycles
  | _ => s.cycles

/-- The read, and what to put. -/
def Shop.readStage (s : Shop) (th : Thread) (c : Cycle) (ok : Bool) : Stage :=
  if admitted th (digest c.name) && ok then
    match (preservedDeliveryDetails ofText (s.inventory c.name)).bind (c.kind.payload ofText) with
    | some payload => .merged payload
    | none => .leaving
  else .leaving

/-- **A step of a cycle**; a cycle takes only the step it is at. -/
def cycleStep (s : Shop) (t : Nat) (th : Thread) (c : Cycle) (a : ShopAction) : Shop :=
  match c.stage, a with
  | .entering, .read _ ok =>
    if th.settled then s.setStage t c (s.readStage digest ofText th c ok) else s
  | .merged payload, .update _ held writesHeld =>
    if held then s.setStage t c .leaving
    else
      { s with
        leases := leaseStep digest s.leases (.on t (.enter c.store c.offerId writesHeld)) }.setStage
          t c (.updating payload)
  | .updating payload, .slot _ ok =>
    if th.settled then
      s.setStage t c
        (if admitted th (digest c.name) && ok then .sending payload c.kind.requests
          else .leaving)
    else s
  | .sending payload (requests + 1), .send _ takesEffect =>
    let s := s.setStage t c (.sending payload requests)
    if takesEffect then
      s.setInventory c.name (putEntries toText payload)
    else s
  | _, .stop _ => s.setStage t c .leaving
  | _, _ => s

/-- The thread of a step of a cycle. -/
def ShopAction.thread? : ShopAction → Option Nat
  | .read t _ => some t
  | .update t _ _ => some t
  | .slot t _ => some t
  | .send t _ => some t
  | .stop t => some t
  | _ => none

def shopStep (s : Shop) (a : ShopAction) : Shop :=
  match a with
  | .lease a =>
    if s.permits a then
      let s := { s with leases := leaseStep digest s.leases a }
      { s with cycles := s.endCycle a }
    else s
  | .start t kind store offerId writesHeld =>
    match s.leases.threads.get? t, s.cycles t with
    | some th, none =>
      if th.settled then
        { s with
          leases := leaseStep digest s.leases (.on t (.enter store offerId writesHeld))
          cycles := Function.update s.cycles t
            (some { kind, store, offerId, base := th.frames.length }) }
      else s
    | _, _ => s
  | .put t store offerId entries =>
    match s.leases.threads.get? t, s.cycles t with
    | some th, none =>
      if admitted th (digest (identifiers store offerId)) then
        s.setInventory (identifiers store offerId) entries
      else s
    | _, _ => s
  | .sell store offerId index =>
    s.setInventory (identifiers store offerId)
      ((s.inventory (identifiers store offerId)).eraseIdx index)
  | a =>
    match a.thread? with
    | some t =>
      match s.leases.threads.get? t, s.cycles t with
      | some th, some c => cycleStep digest ofText toText s t th c a
      | _, _ => s
    | none => s

/-! ### The properties -/

/-- The details are those of the entry. -/
def Shows (e : Entry) (d : DeliveryDetail) : Prop :=
  e.structuredDetails = some d ∨
    e.structuredDetails = none ∧ ofText (stripText e.secretDetails) = some d

/-- The entry is there still, as it was or by its details. -/
def KeptIn (e : Entry) (entries : List Entry) : Prop :=
  e ∈ entries ∨ ∃ d, Shows ofText e d ∧ ∃ e' ∈ entries, e'.structuredDetails = some d

/-- Another governed call, or a sale. -/
def ShopAction.ofOthers : ShopAction → Bool
  | .put _ _ _ _ => true
  | .sell _ _ _ => true
  | _ => false

/-- The cycles overwrite no entry. -/
def OverwritesNothing (s : Shop) (a : ShopAction) : Prop :=
  a.ofOthers = false → ∀ name, ∀ e ∈ s.inventory name,
    KeptIn ofText e ((shopStep digest ofText toText s a).inventory name)

/-! ### Payloads -/

variable {digest} {ofText} {toText} {s : Shop} {t : Nat} {name : String × String}
  {payload : List DeliveryDetail}

theorem shows_of_preservedEntry {e : Entry} {d : DeliveryDetail}
    (h : preservedEntry ofText e = some d) : Shows ofText e d := by
  unfold preservedEntry at h
  split at h
  · next heq =>
    split_ifs at h
    cases h
    exact Or.inl heq
  · next heq =>
    split_ifs at h
    exact Or.inr ⟨heq, h⟩

/-- Every entry is among the preserved ones. -/
theorem shows_of_preserved {entries : List Entry} {existing : List DeliveryDetail}
    (h : preservedDeliveryDetails ofText entries = some existing) :
    ∀ e ∈ entries, ∃ d ∈ existing, Shows ofText e d := by
  induction entries generalizing existing with
  | nil => simp
  | cons x rest ih =>
    rw [preservedDeliveryDetails, List.mapM_cons] at h
    obtain ⟨d, hd, h⟩ := Option.bind_eq_some_iff.mp h
    obtain ⟨ds, hds, h⟩ := Option.bind_eq_some_iff.mp h
    cases h
    intro e he
    rcases List.mem_cons.mp he with rfl | he
    · exact ⟨d, List.mem_cons_self, shows_of_preservedEntry hd⟩
    · obtain ⟨d', hd', hshows⟩ := ih hds e he
      exact ⟨d', List.mem_cons_of_mem _ hd', hshows⟩

/-- **Each of the three puts back what it has read.** -/
theorem subset_of_payload {kind : CycleKind} {existing : List DeliveryDetail}
    (h : kind.payload ofText existing = some payload) : existing ⊆ payload := by
  cases kind with
  | push newCreds =>
    have h : pushPayload ofText newCreds existing = some payload := h
    rw [pushPayload] at h
    split_ifs at h
    obtain ⟨added, -, rfl⟩ := Option.map_eq_some_iff.mp h
    exact List.subset_append_left _ _
  | edit =>
    cases h
    exact List.Subset.refl _
  | renew quantity =>
    have h : renewalPayload quantity existing = some payload := h
    rw [renewalPayload] at h
    split_ifs at h
    cases h
    exact List.Subset.refl _

/-! ### The invariant -/

/-- The thread is inside of the lease of the offer, and the payload has its entries. -/
def Protected (digest : String × String → String) (ofText : String → Option DeliveryDetail)
    (s : Shop) (t : Nat) (name : String × String) (payload : List DeliveryDetail) : Prop :=
  (∃ th, s.leases.threads.get? t = some th ∧ 0 < th.depth (digest name)) ∧
    ∀ e ∈ s.inventory name, ∃ d ∈ payload, Shows ofText e d

structure ShopOk (digest : String × String → String) (ofText : String → Option DeliveryDetail)
    (s : Shop) : Prop where
  leases : LeasesOk s.leases
  cycles : ∀ t c payload, s.cycles t = some c → c.stage.payload? = some payload →
    Protected digest ofText s t c.name payload

theorem depth_of_admitted {th : Thread} {path : String} (h : admitted th path = true) :
    0 < th.depth path := by
  rw [admitted] at h
  obtain ⟨f, hf, hadmits⟩ := Option.any_eq_true _ _ |>.mp h
  rw [Bool.and_eq_true, beq_iff_eq] at hadmits
  exact depth_pos.mpr ⟨f, List.mem_of_mem_head? hf, hadmits.1, hadmits.2⟩

/-- A thread that does not leave the lease stays protected. -/
theorem Protected.released (h : Protected digest ofText s t name payload) {leases : Leases}
    {leaves : Nat → Prop} (hreleased : Released s.leases leases leaves) (hstays : ¬ leaves t) :
    Protected digest ofText { s with leases := leases } t name payload := by
  obtain ⟨⟨th, hth, hdepth⟩, hshows⟩ := h
  obtain ⟨th', hth', ⟨hpos, -, -⟩ | ⟨-, -, hleaves, -⟩⟩ := hreleased t th _ hth hdepth
  · exact ⟨⟨th', hth', hpos⟩, hshows⟩
  · exact absurd hleaves hstays

/-- Inside of a lease nobody else puts anything into the offer. -/
theorem Protected.setInventory (h : Protected digest ofText s t name payload)
    (hleases : LeasesOk s.leases) {u : Nat} {th : Thread} {other : String × String}
    (hth : s.leases.threads.get? u = some th) (hdepth : 0 < th.depth (digest other))
    {entries : List Entry}
    (hown : u = t → other = name → ∀ e ∈ entries, ∃ d ∈ payload, Shows ofText e d) :
    Protected digest ofText (s.setInventory other entries) t name payload := by
  obtain ⟨⟨x, hx, hpos⟩, hshows⟩ := h
  refine ⟨⟨x, hx, hpos⟩, ?_⟩
  rw [inventory_setInventory]
  by_cases hname : other = name
  · subst hname
    rw [Function.update_self]
    exact hown (exclusive hleases u t th x _ hth hx hdepth hpos) rfl
  · rw [Function.update_of_ne (Ne.symm hname)]
    exact hshows

/-- A cycle is at another stage, with nothing to put or protected. -/
theorem shopOk_setStage {c : Cycle} {stage : Stage} {s' : Shop}
    (hleases : LeasesOk s'.leases)
    (hothers : ∀ u x p, u ≠ t → s.cycles u = some x → x.stage.payload? = some p →
      Protected digest ofText s' u x.name p)
    (hcycles : s'.cycles = Function.update s.cycles t (some { c with stage := stage }))
    (hown : ∀ p, stage.payload? = some p → Protected digest ofText s' t c.name p) :
    ShopOk digest ofText s' := by
  refine ⟨hleases, fun u x p hx hp => ?_⟩
  rw [hcycles, Function.update_apply] at hx
  split at hx
  · next hu =>
    cases hx
    exact hu ▸ hown p hp
  · next hu => exact hothers u x p hu hx hp

/-! ### Steps keep the invariant -/

theorem endCycle_le {a : LeaseAction} {u : Nat} {c : Cycle} (h : s.endCycle a u = some c) :
    s.cycles u = some c := by
  unfold Shop.endCycle at h
  split at h
  · split at h
    · rw [Function.update_apply] at h
      split at h
      · cases h
      · exact h
    · exact h
  · exact h

theorem shopOk_lease (h : ShopOk digest ofText s) (a : LeaseAction) :
    ShopOk digest ofText (shopStep digest ofText toText s (.lease a)) := by
  rw [shopStep]
  split
  · next hpermits =>
    refine ⟨leasesOk_step s.leases a h.leases, fun u c payload hc hp => ?_⟩
    have hwas : s.cycles u = some c :=
      endCycle_le (s := { s with leases := leaseStep digest s.leases a }) hc
    refine (h.cycles u c payload hwas hp).released (leaseStep_released h.leases a) ?_
    -- a cycle that is to put something does not leave yet
    rintro rfl
    rw [Shop.permits, hwas] at hpermits
    have hleaving : c.stage = .leaving := by simpa using hpermits
    rw [hleaving] at hp
    cases hp
  · exact h

/-- A cycle starts, or goes on into the lease of the governed call. -/
theorem shopOk_enter (h : ShopOk digest ofText s) (store offerId : String) (writesHeld : Bool)
    {c : Cycle} {stage : Stage}
    (hown : ∀ p, stage.payload? = some p → Protected digest ofText s t c.name p) :
    ShopOk digest ofText ({ s with
      leases := leaseStep digest s.leases (.on t (.enter store offerId writesHeld)) }.setStage
        t c stage) := by
  generalize hleases : leaseStep digest s.leases (.on t (.enter store offerId writesHeld)) = leases
  have hok : LeasesOk leases := hleases ▸ leasesOk_step s.leases _ h.leases
  have hreleased : Released s.leases leases fun u => LeaseAction.on t
      (.enter store offerId writesHeld) = .on u .leave :=
    hleases ▸ leaseStep_released h.leases _
  refine shopOk_setStage hok ?_ rfl ?_
  · exact fun u x p _ hx hp => (h.cycles u x p hx hp).released hreleased nofun
  · exact fun p hp => (hown p hp).released hreleased nofun

/-- Only the stage of a cycle changes. -/
theorem shopOk_stage (h : ShopOk digest ofText s) {c : Cycle} {stage : Stage}
    (hown : ∀ p, stage.payload? = some p → Protected digest ofText s t c.name p) :
    ShopOk digest ofText (s.setStage t c stage) :=
  shopOk_setStage h.leases (fun u x p _ hx hp => h.cycles u x p hx hp) rfl hown

/-- **The read** finds the entries that the payload is built from. -/
theorem protected_read {th : Thread} (hth : s.leases.threads.get? t = some th) {c : Cycle}
    {ok : Bool} (h : (s.readStage digest ofText th c ok).payload? = some payload) :
    Protected digest ofText s t c.name payload := by
  unfold Shop.readStage at h
  split at h
  · next hok =>
    rw [Bool.and_eq_true] at hok
    split at h
    · next built hbuilt =>
      cases h
      obtain ⟨existing, hpreserved, hpayload⟩ := Option.bind_eq_some_iff.mp hbuilt
      refine ⟨⟨th, hth, depth_of_admitted hok.1⟩, fun e he => ?_⟩
      obtain ⟨d, hd, hshows⟩ := shows_of_preserved hpreserved e he
      exact ⟨d, subset_of_payload hpayload hd, hshows⟩
    · cases h
  · cases h

theorem shows_of_put : ∀ e ∈ putEntries toText payload, ∃ d ∈ payload, Shows ofText e d := by
  intro e he
  obtain ⟨d, hd, rfl⟩ := List.mem_map.mp he
  exact ⟨d, hd, Or.inl rfl⟩

theorem shopOk_cycle (h : ShopOk digest ofText s) {th : Thread}
    (hth : s.leases.threads.get? t = some th) {c : Cycle} (hc : s.cycles t = some c)
    (a : ShopAction) : ShopOk digest ofText (cycleStep digest ofText toText s t th c a) := by
  have hkept : ∀ p, c.stage.payload? = some p → Protected digest ofText s t c.name p :=
    fun p hp => h.cycles t c p hc hp
  unfold cycleStep
  split
  · split
    · exact shopOk_stage h fun p hp => protected_read hth hp
    · exact h
  · next payload _ held writesHeld hstage =>
    split
    · exact shopOk_stage h nofun
    · refine shopOk_enter h c.store c.offerId writesHeld fun p hp => hkept p ?_
      rw [hstage]
      exact hp
  · next payload _ ok hstage =>
    split
    · refine shopOk_stage h fun p hp => hkept p ?_
      rw [hstage]
      split at hp
      · exact hp
      · cases hp
    · exact h
  · next payload requests _ takesEffect hstage =>
    have hprotected := hkept payload (by rw [hstage]; rfl)
    have hnext : ShopOk digest ofText (s.setStage t c (.sending payload requests)) :=
      shopOk_stage h fun p hp => by
        cases hp
        exact hprotected
    dsimp only
    split
    · -- the request takes effect: nobody else is inside of the lease
      obtain ⟨⟨x, hx, hdepth⟩, -⟩ := hprotected
      refine ⟨hnext.leases, fun u y p hy hp => ?_⟩
      refine (hnext.cycles u y p hy hp).setInventory hnext.leases hx hdepth ?_
      rintro rfl -
      have hy : Function.update s.cycles t _ t = some y := hy
      rw [Function.update_self] at hy
      cases hy
      cases hp
      exact shows_of_put
    · exact hnext
  · exact shopOk_stage h nofun
  · exact h

/-- Another governed call puts its entries, inside of the lease. -/
theorem shopOk_put (h : ShopOk digest ofText s) {th : Thread}
    (hth : s.leases.threads.get? t = some th) (hc : s.cycles t = none)
    (hadmitted : admitted th (digest name) = true) (entries : List Entry) :
    ShopOk digest ofText (s.setInventory name entries) := by
  refine ⟨h.leases, fun u c payload hu hp => ?_⟩
  have hprotected := h.cycles u c payload hu hp
  apply hprotected.setInventory h.leases hth (depth_of_admitted hadmitted)
  -- the thread is in no cycle
  rintro rfl -
  cases hc.symm.trans hu

/-- The marketplace takes entries away. -/
theorem shopOk_sell (h : ShopOk digest ofText s) (index : Nat) :
    ShopOk digest ofText (s.setInventory name ((s.inventory name).eraseIdx index)) := by
  constructor
  · exact h.leases
  · intro u c payload hu hp
    have hu : s.cycles u = some c := hu
    obtain ⟨hthread, hshows⟩ := h.cycles u c payload hu hp
    refine ⟨hthread, ?_⟩
    rw [inventory_setInventory, Function.update_apply]
    split
    · next hname =>
      rw [hname] at hshows
      exact fun e he => hshows e (List.mem_of_mem_eraseIdx he)
    · exact hshows

theorem shopOk_step (s : Shop) (a : ShopAction) (h : ShopOk digest ofText s) :
    ShopOk digest ofText (shopStep digest ofText toText s a) := by
  have hcycle : ∀ (t : Nat) (a : ShopAction), ShopOk digest ofText
      (match s.leases.threads.get? t, s.cycles t with
        | some th, some c => cycleStep digest ofText toText s t th c a
        | _, _ => s) := by
    intro t a
    split
    · next th c hth hc => exact shopOk_cycle h hth hc a
    · exact h
  cases a with
  | lease a => exact shopOk_lease h a
  | start t kind store offerId writesHeld =>
    rw [shopStep]
    split
    · split
      · next th _ _ _ =>
        have hno : ∀ p, Stage.entering.payload? = some p → Protected digest ofText s t
            (Cycle.name { kind, store, offerId, base := th.frames.length }) p := nofun
        have henter := shopOk_enter h store offerId writesHeld hno
        exact henter
      · exact h
    · exact h
  | put t store offerId entries =>
    rw [shopStep]
    generalize identifiers store offerId = name
    split
    · next th hth hc =>
      split
      · next hadmitted => exact shopOk_put h hth hc hadmitted entries
      · exact h
    · exact h
  | sell store offerId index => exact shopOk_sell h index
  | read t ok => exact hcycle t _
  | update t held writesHeld => exact hcycle t _
  | slot t ok => exact hcycle t _
  | send t takesEffect => exact hcycle t _
  | stop t => exact hcycle t _

/-! ### The three serialized -/

theorem Released.mono {a b : Leases} {leaves leaves' : Nat → Prop} (h : Released a b leaves)
    (hle : ∀ t, leaves t → leaves' t) : Released a b leaves' := by
  intro t th path hth hdepth
  obtain ⟨th', hth', hcase⟩ := h t th path hth hdepth
  refine ⟨th', hth', hcase.imp_right ?_⟩
  exact fun ⟨hone, hzero, hleaves, hnone⟩ => ⟨hone, hzero, hle t hleaves, hnone⟩

/-- An entry takes no lease from any thread. -/
theorem released_enter (h : LeasesOk s.leases) (t : Nat) (store offerId : String)
    (writesHeld : Bool) (leaves : Nat → Prop) :
    Released s.leases (leaseStep digest s.leases (.on t (.enter store offerId writesHeld)))
      leaves :=
  Released.mono (leaseStep_released h _) fun _ hleaves => nomatch hleaves

theorem released_cycle (h : LeasesOk s.leases) {th : Thread} {c : Cycle} (a : ShopAction)
    (leaves : Nat → Prop) :
    Released s.leases (cycleStep digest ofText toText s t th c a).leases leaves := by
  unfold cycleStep
  split
  · split <;> exact released_refl h leaves
  · split
    · exact released_refl h leaves
    · exact released_enter h t c.store c.offerId _ leaves
  · split <;> exact released_refl h leaves
  · dsimp only
    split
    · rw [leases_setInventory]
      exact released_refl h leaves
    · exact released_refl h leaves
  · exact released_refl h leaves
  · exact released_refl h leaves

/-- **A step of the shop and the leases**: a lease ends only with its outermost frame. -/
theorem shopStep_released (h : ShopOk digest ofText s) (a : ShopAction) :
    Released s.leases (shopStep digest ofText toText s a).leases
      fun t => a = .lease (.on t .leave) := by
  have hsame := released_refl h.leases fun t => a = .lease (.on t .leave)
  have hcycle : ∀ (t : Nat) (b : ShopAction), Released s.leases
      (match s.leases.threads.get? t, s.cycles t with
        | some th, some c => cycleStep digest ofText toText s t th c b
        | _, _ => s).leases fun t => a = .lease (.on t .leave) := by
    intro t b
    split
    · exact released_cycle h.leases b _
    · exact hsame
  cases a with
  | lease a =>
    rw [shopStep]
    split
    · refine Released.mono (leaseStep_released h.leases a) ?_
      rintro t rfl
      rfl
    · exact hsame
  | start t kind store offerId writesHeld =>
    rw [shopStep]
    split
    · split
      · exact released_enter h.leases t store offerId writesHeld _
      · exact hsame
    · exact hsame
  | put t store offerId entries =>
    rw [shopStep]
    split
    · split
      · rw [leases_setInventory]
        exact hsame
      · exact hsame
    · exact hsame
  | sell store offerId index =>
    rw [shopStep, leases_setInventory]
    exact hsame
  | read t ok => exact hcycle t _
  | update t held writesHeld => exact hcycle t _
  | slot t ok => exact hcycle t _
  | send t takesEffect => exact hcycle t _
  | stop t => exact hcycle t _

theorem kept_cycle (h : ShopOk digest ofText s) {th : Thread} {c : Cycle}
    (hc : s.cycles t = some c) (a : ShopAction) (name : String × String) :
    ∀ e ∈ s.inventory name,
      KeptIn ofText e ((cycleStep digest ofText toText s t th c a).inventory name) := by
  intro e he
  unfold cycleStep
  split
  · split <;> exact Or.inl he
  · split <;> exact Or.inl he
  · split <;> exact Or.inl he
  · next payload requests _ takesEffect hstage =>
    dsimp only
    split
    · by_cases hname : name = c.name
      · -- the payload has every entry
        obtain ⟨-, hshows⟩ := h.cycles t c payload hc (by rw [hstage]; rfl)
        rw [hname] at he ⊢
        obtain ⟨d, hd, hshow⟩ := hshows e he
        refine Or.inr ⟨d, hshow, ⟨some d, toText d⟩, ?_, rfl⟩
        rw [inventory_setInventory, Function.update_self]
        exact List.mem_map_of_mem hd
      · left
        rw [inventory_setInventory, Function.update_of_ne hname]
        exact he
    · exact Or.inl he
  · exact Or.inl he
  · exact Or.inl he

/-- **The cycles overwrite no entry.** -/
theorem overwritesNothing (h : ShopOk digest ofText s) (a : ShopAction) :
    OverwritesNothing digest ofText toText s a := by
  intro hcycle name e he
  have hstep : ∀ (t : Nat) (b : ShopAction), KeptIn ofText e
      ((match s.leases.threads.get? t, s.cycles t with
        | some th, some c => cycleStep digest ofText toText s t th c b
        | _, _ => s).inventory name) := by
    intro t b
    split
    · next th c _ hc => exact kept_cycle h hc b name e he
    · exact Or.inl he
  cases a with
  | lease a =>
    rw [shopStep]
    split <;> exact Or.inl he
  | start t kind store offerId writesHeld =>
    rw [shopStep]
    split
    · split <;> exact Or.inl he
    · exact Or.inl he
  | put t store offerId entries => cases hcycle
  | sell store offerId index => cases hcycle
  | read t ok => exact hstep t _
  | update t held writesHeld => exact hstep t _
  | slot t ok => exact hstep t _
  | send t takesEffect => exact hstep t _
  | stop t => exact hstep t _

/-- **The offer lease.**  For any interleaving of threads and processes, nested entries, forks
and exits at any moment: one thread at a time is inside of the lease of a store's offer; the
lock file is locked only by a thread in the statement; the lease ends with the outermost frame
of its thread and no earlier; and the pool push, the editor and the renewal overwrite no
entry. -/
theorem offer_mutation_serializes (digest : String × String → String)
    (ofText : String → Option DeliveryDetail) (toText : DeliveryDetail → String)
    (inventory : String × String → List Entry) (es : List ShopAction) :
    Always (shopStep digest ofText toText) (fun s => Exclusive s.leases ∧ Tight s.leases)
        { inventory } es ∧
      Along (shopStep digest ofText toText)
        (fun s a => Released s.leases (shopStep digest ofText toText s a).leases
            (fun t => a = .lease (.on t .leave)) ∧
          OverwritesNothing digest ofText toText s a) { inventory } es := by
  have hstart : ShopOk digest ofText { inventory } := ⟨leasesOk_start, nofun⟩
  constructor
  · have hall : Always (shopStep digest ofText toText) (ShopOk digest ofText) { inventory } es :=
      always_of_step shopOk_step hstart es
    exact hall.mono fun s hs => ⟨exclusive hs.leases, tight hs.leases⟩
  · refine along_of_along (C := fun _ _ => True) (fun s a h _ => shopOk_step s a h) ?_ hstart
      (along_of_forall (fun _ _ => trivial) _ es)
    exact fun s a h _ => ⟨shopStep_released h a, overwritesNothing h a⟩

/-- A push by one process, while another finds the offer busy and comes back. -/
def twoPushes : List ShopAction :=
  let push (t : Nat) : List ShopAction :=
    [.read t true, .update t false false, .slot t true, .send t true, .stop t,
      .lease (.on t .leave), .lease (.on t .leave)]
  [.lease .start, .lease .start, .start 0 (.push ["a"]) "ezsmurfmart" "Offer" false,
      .lease (.on 0 (.lock false)), .lease (.on 0 (.settle false)),
      .start 1 (.push ["b"]) "ezsmurfmart" "offer" false, .lease (.on 1 (.lock false))] ++
    push 0 ++ [.read 1 true, .lease (.on 1 .leave)] ++
    [.start 1 (.push ["b"]) "ezsmurfmart" "offer" false, .lease (.on 1 (.lock false)),
      .lease (.on 1 (.settle false))] ++ push 1

example : ((run (shopStep (fun n => n.1 ++ n.2) (fun text => some ⟨text, text, ""⟩)
      DeliveryDetail.accountLogin) { inventory := fun _ => [] } twoPushes).inventory
        ("ezsmurfmart", "offer")).map Entry.secretDetails = ["a", "b"] := by
  decide +kernel

end Sda.Inventory
