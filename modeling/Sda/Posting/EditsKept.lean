/-
Sda/Posting/EditsKept.lean

What becomes of the changes of an accepted enqueue (posting/services/pa_edit_queue.py).

`enqueue_pa_edit` returns an outstanding request as it is: the changes of the caller are not
looked at.  `accepted` has every enqueue that returned, the last one first, and
`EditsKept` says of each that the offer carries its changes once its request is
SUCCEEDED, up to fields that a later enqueue of the listing has set.

* `edits_kept` — so it is in every run in which a request that is returned has the changes
  already and none is created beside an outstanding one;
* `edits_lost` — a second enqueue while the first is QUEUED; and two enqueues that both
  found no request, with the older edit landing last.
-/
import Sda.Posting.EditQueue

namespace Sda.Edit

variable {q : EditQueue} {requests : Table EditRequest} {accepted : List Accepted}
  {workers : Table EditWorker} {offers : Nat → EditField → Option String}

/-! ### The property -/

/-- An accepted change is on the offer once its request is SUCCEEDED, or superseded. -/
def Kept (requests : Table EditRequest) (accepted : List Accepted)
    (offers : Nat → EditField → Option String) : Prop :=
  ∀ later x earlier, accepted = later ++ x :: earlier →
    ∀ r, requests.get? x.request = some r → r.status = .succeeded →
      ∀ field value, x.changes.get field = some value →
        offers x.listing field = some value ∨
          ∃ y ∈ later, y.listing = x.listing ∧ (y.changes.get field).isSome

def EditsKept (q : EditQueue) : Prop := Kept q.requests q.accepted q.offers

/-- A request that is returned has the changes already, and one is created only where none is
outstanding. -/
def EnqueueFits (q : EditQueue) : EditAction → Prop
  | .enqueue listing _ changes => ∀ k r, outstanding q.requests listing = some (k, r) →
      ∀ field value, (jsonSafeChanges changes).get field = some value →
        r.changes.get field = some value
  | .create enqueuer => ∀ e, q.enqueuers.get? enqueuer = some e →
      outstanding q.requests e.listing = none
  | _ => True

/-! ### Requests and records -/

theorem outstanding_spec {listing k : Nat} {r : EditRequest}
    (h : outstanding requests listing = some (k, r)) :
    requests.get? k = some r ∧ r.listing = listing ∧ r.isOutstanding = true := by
  have hin := List.mem_of_mem_head? (Option.mem_def.mpr h)
  have hsel := (List.perm_insertionSort createdOrder _).mem_iff.mp hin
  obtain ⟨hget, hout⟩ := Table.mem_select.mp hsel
  rw [Bool.and_eq_true, beq_iff_eq] at hout
  exact ⟨hget, hout⟩

theorem outstanding_none {listing k : Nat} {r : EditRequest}
    (h : outstanding requests listing = none) (hk : requests.get? k = some r)
    (hlisting : r.listing = listing) : r.isOutstanding = false := by
  by_contra hout
  rw [Bool.not_eq_false] at hout
  have hsel : (k, r) ∈ requests.select fun _ r => r.listing == listing && r.isOutstanding :=
    Table.mem_select.mpr ⟨hk, by simp [hlisting, hout]⟩
  have hin := (List.perm_insertionSort createdOrder _).mem_iff.mpr hsel
  rw [List.head?_eq_none_iff.mp h] at hin
  cases hin

/-- The requests and the enqueues they were returned to. -/
structure Recorded (requests : Table EditRequest) (accepted : List Accepted) : Prop where
  /-- An outstanding request is the newest of its listing. -/
  newest : ∀ i j a b, requests.get? i = some a → requests.get? j = some b →
    a.listing = b.listing → a.isOutstanding = true → j ≤ i
  stored : ∀ x ∈ accepted, ∃ r, requests.get? x.request = some r ∧ r.listing = x.listing ∧
    ∀ field value, x.changes.get field = some value → r.changes.get field = some value
  created : ∀ k r, requests.get? k = some r → ∃ y ∈ accepted, y.request = k ∧
    y.listing = r.listing ∧ y.changes = r.changes
  ordered : accepted.Pairwise fun y x => y.listing = x.listing → x.request ≤ y.request

/-- A newer request of the listing was created by a later enqueue. -/
theorem Recorded.later (h : Recorded requests accepted) {later earlier : List Accepted}
    {x : Accepted} {k : Nat} {r : EditRequest} (hsplit : accepted = later ++ x :: earlier)
    (hk : requests.get? k = some r) (hlisting : r.listing = x.listing) (hnewer : x.request < k) :
    ∃ y ∈ later, y.listing = x.listing ∧ y.changes = r.changes := by
  obtain ⟨y, hy, hrequest, hsame, hchanges⟩ := h.created k r hk
  have hordered := h.ordered
  rw [hsplit, List.pairwise_append] at hordered
  rw [hsplit, List.mem_append, List.mem_cons] at hy
  rcases hy with hlater | rfl | hearlier
  · exact ⟨y, hlater, hsame.trans hlisting, hchanges⟩
  · omega
  · -- an earlier enqueue returned an older request
    have := List.rel_of_pairwise_cons hordered.2.1 hearlier (hlisting.symm.trans hsame.symm)
    omega

/-- A row is rewritten. -/
theorem Recorded.set (h : Recorded requests accepted) {k : Nat} {r r' : EditRequest}
    (hk : requests.get? k = some r) (hlisting : r'.listing = r.listing)
    (hchanges : r'.changes = r.changes) (hout : r.isOutstanding = true) :
    Recorded (requests.set k r') accepted := by
  have hold : ∀ {j b}, (requests.set k r').get? j = some b → ∃ a, requests.get? j = some a ∧
      b.listing = a.listing ∧ b.changes = a.changes ∧
      (b.isOutstanding = true → a.isOutstanding = true) := by
    intro j b hb
    rw [Table.get?_set hk] at hb
    split at hb
    · next hj =>
      cases hb
      exact ⟨r, hj ▸ hk, hlisting, hchanges, fun _ => hout⟩
    · exact ⟨b, hb, rfl, rfl, id⟩
  constructor
  · intro i j a b ha hb hsame houtstanding
    obtain ⟨a', ha', hla, -, houta⟩ := hold ha
    obtain ⟨b', hb', hlb, -, -⟩ := hold hb
    exact h.newest i j a' b' ha' hb' (hla.symm.trans (hsame.trans hlb)) (houta houtstanding)
  · intro x hx
    obtain ⟨a, ha, hla, hstored⟩ := h.stored x hx
    by_cases hj : x.request = k
    · rw [hj] at ha ⊢
      rw [hk] at ha
      cases ha
      refine ⟨r', Table.get?_set_self hk, hlisting.trans hla, ?_⟩
      rw [hchanges]
      exact hstored
    · refine ⟨a, ?_, hla, hstored⟩
      rw [Table.get?_set_ne hj]
      exact ha
  · intro j b hb
    obtain ⟨a, ha, hl, hc, -⟩ := hold hb
    rw [hl, hc]
    exact h.created j a ha
  · exact h.ordered

/-- A request is returned to an enqueue. -/
theorem Recorded.enqueue (h : Recorded requests accepted) {listing k : Nat} {r : EditRequest}
    {changes : StoredChanges} (hout : outstanding requests listing = some (k, r))
    (hfits : ∀ field value, changes.get field = some value → r.changes.get field = some value) :
    Recorded requests (⟨listing, changes, k⟩ :: accepted) := by
  obtain ⟨hk, hlisting, houtstanding⟩ := outstanding_spec hout
  refine ⟨h.newest, ?_, ?_, ?_⟩
  · intro x hx
    rcases List.mem_cons.mp hx with rfl | hx
    · exact ⟨r, hk, hlisting, hfits⟩
    · exact h.stored x hx
  · intro j b hb
    obtain ⟨y, hy, hcreated⟩ := h.created j b hb
    exact ⟨y, List.mem_cons_of_mem _ hy, hcreated⟩
  · refine List.pairwise_cons.mpr ⟨fun x hx hsame => ?_, h.ordered⟩
    obtain ⟨a, ha, hla, -⟩ := h.stored x hx
    exact h.newest k x.request r a hk ha (hlisting.trans (hsame.trans hla.symm)) houtstanding

/-- A request is created where none is outstanding. -/
theorem Recorded.create (h : Recorded requests accepted) {r : EditRequest}
    (hnone : outstanding requests r.listing = none) :
    Recorded (requests.create r) (⟨r.listing, r.changes, requests.nextKey⟩ :: accepted) := by
  have hnew : (requests.create r).get? requests.nextKey = some r := by
    rw [Table.get?_create, if_pos rfl]
  refine ⟨?_, ?_, ?_, ?_⟩
  · intro i j a b ha hb hsame hout
    rw [Table.get?_create] at ha hb
    split at ha
    · next hi =>
      split at hb
      · omega
      · rw [hi]
        exact (Table.lt_nextKey hb).le
    · split at hb
      · -- the old row would be outstanding
        cases hb
        rw [outstanding_none hnone ha hsame] at hout
        cases hout
      · exact h.newest i j a b ha hb hsame hout
  · intro x hx
    rcases List.mem_cons.mp hx with rfl | hx
    · exact ⟨r, hnew, rfl, fun _ _ => id⟩
    · obtain ⟨a, ha, hstored⟩ := h.stored x hx
      exact ⟨a, Table.get?_create_of_some ha, hstored⟩
  · intro j b hb
    rw [Table.get?_create] at hb
    split at hb
    · next hj =>
      cases hb
      exact ⟨_, List.mem_cons_self .., hj.symm, rfl, rfl⟩
    · obtain ⟨y, hy, hcreated⟩ := h.created j b hb
      exact ⟨y, List.mem_cons_of_mem _ hy, hcreated⟩
  · refine List.pairwise_cons.mpr ⟨fun x hx _ => ?_, h.ordered⟩
    obtain ⟨a, ha, -⟩ := h.stored x hx
    exact (Table.lt_nextKey ha).le

/-! ### Workers -/

/-- The request of a worker that has taken one. -/
def EditWorker.request? : EditWorker → Option Nat
  | .started _ => none
  | .looked _ _ => none
  | .running k => some k
  | .edited k _ => some k

/-- The workers, their requests and the offers. -/
structure Held (requests : Table EditRequest) (workers : Table EditWorker)
    (offers : Nat → EditField → Option String) : Prop where
  running : ∀ w x k, workers.get? w = some x → x.request? = some k →
    ∃ r, requests.get? k = some r ∧ r.status = .running
  distinct : ∀ v w x y k, workers.get? v = some x → workers.get? w = some y →
    x.request? = some k → y.request? = some k → v = w
  /-- The offer carries an edit that was answered so. -/
  landed : ∀ w k offerId r, workers.get? w = some (.edited k (.succeeded offerId)) →
    requests.get? k = some r → ∀ field value, r.changes.get field = some value →
      offers r.listing field = some value

/-- A worker leaves, or a table of workers shrinks otherwise. -/
theorem Held.sub (h : Held requests workers offers) {workers' : Table EditWorker}
    (hsub : ∀ w x k, workers'.get? w = some x → x.request? = some k → workers.get? w = some x) :
    Held requests workers' offers := by
  constructor
  · intro w x k hx hk
    exact h.running w x k (hsub w x k hx hk) hk
  · intro v w x y k hx hy hkx hky
    exact h.distinct v w x y k (hsub v x k hx hkx) (hsub w y k hy hky) hkx hky
  · intro w k offerId r hw hr
    exact h.landed w k offerId r (hsub w _ k hw rfl) hr

theorem Held.create (h : Held requests workers offers) (r : EditRequest) :
    Held (requests.create r) workers offers := by
  constructor
  · intro w x k hx hk
    obtain ⟨a, ha, hrunning⟩ := h.running w x k hx hk
    exact ⟨a, Table.get?_create_of_some ha, hrunning⟩
  · exact h.distinct
  · intro w k offerId b hw hb
    obtain ⟨a, ha, -⟩ := h.running w _ k hw rfl
    rw [Table.get?_create_of_some ha] at hb
    cases hb
    exact h.landed w k offerId b hw ha

/-- A QUEUED request is taken. -/
theorem Held.take (h : Held requests workers offers) {worker now k : Nat} {x : EditWorker}
    {r : EditRequest} (hw : workers.get? worker = some x) (hk : requests.get? k = some r)
    (hqueued : r.status = .queued) :
    Held (requests.set k (r.begin now)) (workers.set worker (.running k)) offers := by
  -- nobody has it yet
  have hfree : ∀ w y, workers.get? w = some y → y.request? ≠ some k := by
    intro w y hy hheld
    obtain ⟨a, ha, hrunning⟩ := h.running w y k hy hheld
    rw [hk] at ha
    cases ha
    rw [hqueued] at hrunning
    cases hrunning
  have hother : ∀ {w y j}, (workers.set worker (.running k)).get? w = some y →
      y.request? = some j → w = worker ∧ j = k ∨ w ≠ worker ∧ workers.get? w = some y ∧ j ≠ k := by
    intro w y j hy hj
    rw [Table.get?_set hw] at hy
    split at hy
    · next heq =>
      cases hy
      cases hj
      exact Or.inl ⟨heq, rfl⟩
    · next hne =>
      refine Or.inr ⟨hne, hy, ?_⟩
      rintro rfl
      exact hfree w y hy hj
  constructor
  · intro w y j hy hj
    rcases hother hy hj with ⟨-, rfl⟩ | ⟨-, hold, hne⟩
    · exact ⟨_, Table.get?_set_self hk, rfl⟩
    · rw [Table.get?_set_ne hne]
      exact h.running w y j hold hj
  · intro v w y z j hy hz hjy hjz
    rcases hother hy hjy with ⟨rfl, rfl⟩ | ⟨-, holdy, hne⟩
    · rcases hother hz hjz with ⟨rfl, -⟩ | ⟨-, -, hne⟩
      · rfl
      · exact absurd rfl hne
    · rcases hother hz hjz with ⟨rfl, rfl⟩ | ⟨-, holdz, -⟩
      · exact absurd rfl hne
      · exact h.distinct v w y z j holdy holdz hjy hjz
  · intro w j offerId b hy hb
    rw [Table.get?_set hw] at hy
    split at hy
    · cases hy
    · have hne : j ≠ k := by
        rintro rfl
        exact hfree w _ hy rfl
      rw [Table.get?_set_ne hne] at hb
      exact h.landed w j offerId b hy hb

theorem editLands_of_succeeded {r : EditRequest} {view : EditView} {answer : EditAnswer}
    {offerId : String} (h : editOutcome r view answer = .succeeded offerId) :
    editLands r view answer = true := by
  unfold editOutcome at h
  unfold editLands
  split at h
  · cases h
  · cases answer with
    | updated newOfferId => rfl
    | refused error landed => cases h
    | raised message landed => cases h

/-- What an offer carries after an edit. -/
def editedOffers (offers : Nat → EditField → Option String) (r : EditRequest) (view : EditView)
    (answer : EditAnswer) : Nat → EditField → Option String :=
  if editLands r view answer then applyChanges offers r.listing r.changes else offers

theorem editedOffers_ne {r : EditRequest} {view : EditView} {answer : EditAnswer} {l : Nat}
    {field : EditField} (h : l ≠ r.listing ∨ r.changes.get field = none) :
    editedOffers offers r view answer l field = offers l field := by
  rw [editedOffers]
  split
  · rw [applyChanges]
    rcases h with hl | hnone
    · rw [if_neg hl]
    · simp [hnone]
  · rfl

theorem editedOffers_landed {r : EditRequest} {view : EditView} {answer : EditAnswer}
    {field : EditField} {value : String} (h : editLands r view answer = true)
    (hvalue : r.changes.get field = some value) :
    editedOffers offers r view answer r.listing field = some value := by
  rw [editedOffers, if_pos h, applyChanges, if_pos rfl, hvalue]
  rfl

/-- A worker's edit ends. -/
theorem Held.edit (h : Held requests workers offers) (hrec : Recorded requests accepted)
    {worker k : Nat} {r : EditRequest} (view : EditView) (answer : EditAnswer)
    (hw : workers.get? worker = some (.running k)) (hk : requests.get? k = some r) :
    Held requests (workers.set worker (.edited k (editOutcome r view answer)))
      (editedOffers offers r view answer) := by
  have hrunning : ∀ {w y j}, workers.get? w = some y → y.request? = some j → ∀ {b},
      requests.get? j = some b → b.isOutstanding = true := by
    intro w y j hy hj b hb
    obtain ⟨a, ha, hstatus⟩ := h.running w y j hy hj
    rw [hb] at ha
    cases ha
    rw [EditRequest.isOutstanding, hstatus]
    rfl
  have hold : ∀ {w y j}, (workers.set worker (.edited k (editOutcome r view answer))).get? w =
      some y → y.request? = some j → ∃ x, workers.get? w = some x ∧ x.request? = some j := by
    intro w y j hy hj
    rw [Table.get?_set hw] at hy
    split at hy
    · next heq =>
      subst heq
      cases hy
      exact ⟨.running k, hw, hj⟩
    · exact ⟨y, hy, hj⟩
  constructor
  · intro w y j hy hj
    obtain ⟨x, hx, hj⟩ := hold hy hj
    exact h.running w x j hx hj
  · intro v w y z j hy hz hjy hjz
    obtain ⟨y, hy, hjy⟩ := hold hy hjy
    obtain ⟨z, hz, hjz⟩ := hold hz hjz
    exact h.distinct v w y z j hy hz hjy hjz
  · intro w j offerId b hy hb field value hvalue
    rw [Table.get?_set hw] at hy
    split at hy
    · -- the worker itself
      injection hy with hy
      injection hy with hj houtcome
      subst hj
      rw [hk] at hb
      cases hb
      exact editedOffers_landed (editLands_of_succeeded houtcome) hvalue
    · next hne =>
      -- another worker: its request is of another listing
      have hlisting : b.listing ≠ r.listing := by
        intro hsame
        have hout := hrunning hy rfl hb
        have hout' := hrunning hw rfl hk
        have hle := hrec.newest j k b r hb hk hsame hout
        have hge := hrec.newest k j r b hk hb hsame.symm hout'
        have hjk : j = k := by omega
        subst hjk
        exact hne (h.distinct w worker _ _ j hy hw rfl rfl)
      rw [editedOffers_ne (Or.inl hlisting)]
      exact h.landed w j offerId b hy hb field value hvalue

/-- A worker marks its request and leaves. -/
theorem Held.finish (h : Held requests workers offers) {worker now k : Nat} {x : EditWorker}
    {r : EditRequest} {outcome : EditOutcome} (hw : workers.get? worker = some x)
    (hx : x.request? = some k) :
    Held (requests.set k (r.finish now outcome))
      (workers.deleteWhere fun w _ => w == worker) offers := by
  have hother : ∀ {w y j}, (workers.deleteWhere fun w _ => w == worker).get? w = some y →
      y.request? = some j → workers.get? w = some y ∧ j ≠ k := by
    intro w y j hy hj
    obtain ⟨hy, hne⟩ := Table.get?_deleteWhere.mp hy
    refine ⟨hy, ?_⟩
    rintro rfl
    rw [h.distinct w worker y x j hy hw hj hx] at hne
    simp at hne
  constructor
  · intro w y j hy hj
    obtain ⟨hy, hne⟩ := hother hy hj
    rw [Table.get?_set_ne hne]
    exact h.running w y j hy hj
  · intro v w y z j hy hz hjy hjz
    exact h.distinct v w y z j (hother hy hjy).1 (hother hz hjz).1 hjy hjz
  · intro w j offerId b hy hb
    obtain ⟨hy, hne⟩ := hother hy rfl
    rw [Table.get?_set_ne hne] at hb
    exact h.landed w j offerId b hy hb

/-! ### Steps -/

/-- Another enqueue has returned, for a request that is not SUCCEEDED. -/
theorem Kept.cons (h : Kept requests accepted offers) {x : Accepted}
    (hx : ∀ r, requests.get? x.request = some r → r.status ≠ .succeeded) :
    Kept requests (x :: accepted) offers := by
  intro later y earlier hsplit r hr hsucceeded field value hvalue
  rcases List.cons_eq_append_iff.mp hsplit with ⟨rfl, heq⟩ | ⟨rest, rfl, heq⟩
  · cases heq
    exact absurd hsucceeded (hx r hr)
  · rcases h rest y earlier heq r hr hsucceeded field value hvalue with hcarries | ⟨z, hz, hset⟩
    · exact Or.inl hcarries
    · exact Or.inr ⟨z, List.mem_cons_of_mem _ hz, hset⟩

/-- Rows that are SUCCEEDED now and were not carry their changes. -/
theorem Kept.rows (h : Kept requests accepted offers) {requests' : Table EditRequest}
    (hrows : ∀ x ∈ accepted, ∀ r', requests'.get? x.request = some r' → r'.status = .succeeded →
      (∃ r, requests.get? x.request = some r ∧ r.status = .succeeded) ∨
        ∀ field value, x.changes.get field = some value →
          offers x.listing field = some value) : Kept requests' accepted offers := by
  intro later x earlier hsplit r' hr' hsucceeded field value hvalue
  have hmem : x ∈ accepted := by
    rw [hsplit]
    exact List.mem_append_right _ (List.mem_cons_self ..)
  rcases hrows x hmem r' hr' hsucceeded with ⟨r, hr, hold⟩ | hcarries
  · exact h later x earlier hsplit r hr hold field value hvalue
  · exact Or.inl (hcarries field value hvalue)

/-- An edit of an outstanding request supersedes what older requests have set. -/
theorem Kept.edit (h : Kept requests accepted offers) (hrec : Recorded requests accepted)
    {k : Nat} {r : EditRequest} (view : EditView) (answer : EditAnswer)
    (hk : requests.get? k = some r) (hrunning : r.status = .running) :
    Kept requests accepted (editedOffers offers r view answer) := by
  intro later x earlier hsplit b hb hsucceeded field value hvalue
  by_cases hsame : x.listing ≠ r.listing ∨ r.changes.get field = none
  · rw [editedOffers_ne hsame]
    exact h later x earlier hsplit b hb hsucceeded field value hvalue
  · push Not at hsame
    obtain ⟨hlisting, hset⟩ := hsame
    right
    have hmem : x ∈ accepted := by
      rw [hsplit]
      exact List.mem_append_right _ (List.mem_cons_self ..)
    obtain ⟨b', hb', hlb, -⟩ := hrec.stored x hmem
    have hout : r.isOutstanding = true := by
      rw [EditRequest.isOutstanding, hrunning]
      rfl
    have hle := hrec.newest k x.request r b' hk hb' (hlisting.symm.trans hlb.symm) hout
    have hne : x.request ≠ k := by
      rintro rfl
      rw [hk] at hb
      cases hb
      rw [hrunning] at hsucceeded
      cases hsucceeded
    obtain ⟨y, hy, hly, hchanges⟩ :=
      hrec.later hsplit hk hlisting.symm (lt_of_le_of_ne hle hne)
    refine ⟨y, hy, hly, ?_⟩
    rw [hchanges]
    exact Option.isSome_iff_ne_none.mpr hset

/-- What every state of a run has. -/
structure EditsOrdered (q : EditQueue) : Prop where
  recorded : Recorded q.requests q.accepted
  held : Held q.requests q.workers q.offers
  kept : EditsKept q

theorem ordered_enqueue (h : EditsOrdered q) {listing : Nat} {activeOffer : Option Nat}
    {changes : EditChanges} (hfits : EnqueueFits q (.enqueue listing activeOffer changes)) :
    EditsOrdered (q.enqueue listing activeOffer changes) := by
  rw [EditQueue.enqueue]
  split
  · next k r hout =>
    obtain ⟨hk, -, houtstanding⟩ := outstanding_spec hout
    refine ⟨h.recorded.enqueue hout (hfits k r hout), h.held, h.kept.cons fun b hb hdone => ?_⟩
    rw [hk] at hb
    cases hb
    rw [EditRequest.isOutstanding, hdone] at houtstanding
    cases houtstanding
  · exact ⟨h.recorded, h.held, h.kept⟩

theorem ordered_create (h : EditsOrdered q) {enqueuer : Nat} {e : Enqueuer}
    (hnone : outstanding q.requests e.listing = none) : EditsOrdered (q.create enqueuer e) := by
  refine ⟨h.recorded.create hnone, h.held.create _, ?_⟩
  show Kept (q.requests.create _) (_ :: q.accepted) q.offers
  apply Kept.cons
  · refine Kept.rows h.kept fun x hx r' hr' hdone => Or.inl ?_
    rw [Table.get?_create] at hr'
    split at hr'
    · cases hr'
      cases hdone
    · exact ⟨r', hr', hdone⟩
  · intro b hb
    rw [Table.get?_create, if_pos rfl] at hb
    cases hb
    exact nofun

theorem ordered_look (h : EditsOrdered q) {worker now : Nat} {x : EditWorker}
    (hw : q.workers.get? worker = some x) : EditsOrdered (q.look worker now) := by
  rw [EditQueue.look]
  split
  · exact ⟨h.recorded, h.held.sub fun w y k hy _ => (Table.get?_deleteWhere.mp hy).1, h.kept⟩
  · refine ⟨h.recorded, h.held.sub fun w y k hy hk => ?_, h.kept⟩
    rw [Table.get?_set hw] at hy
    split at hy
    · cases hy
      cases hk
    · exact hy

theorem ordered_take (h : EditsOrdered q) {worker now : Nat} {locked : List Nat} {x : EditWorker}
    (hw : q.workers.get? worker = some x) : EditsOrdered (q.take worker now locked) := by
  rw [EditQueue.take]
  split
  · exact ⟨h.recorded, h.held.sub fun w y k hy _ => (Table.get?_deleteWhere.mp hy).1, h.kept⟩
  · next k r hnext =>
    obtain ⟨hk, hqueued⟩ := nextQueued_spec hnext
    have hout : r.isOutstanding = true := by
      rw [EditRequest.isOutstanding, hqueued]
      rfl
    refine ⟨h.recorded.set hk rfl rfl hout, h.held.take hw hk hqueued, ?_⟩
    refine Kept.rows h.kept fun x hx r' hr' hdone => Or.inl ?_
    rw [Table.get?_set hk] at hr'
    split at hr'
    · cases hr'
      cases hdone
    · exact ⟨r', hr', hdone⟩

theorem ordered_edit (h : EditsOrdered q) {worker k : Nat} {r : EditRequest} (view : EditView)
    (answer : EditAnswer) (hw : q.workers.get? worker = some (.running k))
    (hk : q.requests.get? k = some r) : EditsOrdered (q.edit worker k r view answer) := by
  obtain ⟨b, hb, hrunning⟩ := h.held.running worker _ k hw rfl
  rw [hk] at hb
  cases hb
  exact ⟨h.recorded, h.held.edit h.recorded view answer hw hk,
    Kept.edit h.kept h.recorded view answer hk hrunning⟩

theorem ordered_finish (h : EditsOrdered q) {worker k : Nat} {r : EditRequest}
    {outcome : EditOutcome} (hw : q.workers.get? worker = some (.edited k outcome))
    (hk : q.requests.get? k = some r) : EditsOrdered (q.finish worker k r outcome) := by
  obtain ⟨b, hb, hrunning⟩ := h.held.running worker _ k hw rfl
  rw [hk] at hb
  cases hb
  have hout : r.isOutstanding = true := by
    rw [EditRequest.isOutstanding, hrunning]
    rfl
  refine ⟨h.recorded.set hk ?_ ?_ hout, h.held.finish hw rfl, ?_⟩
  · cases outcome <;> rfl
  · cases outcome <;> rfl
  · refine Kept.rows h.kept fun x hx r' hr' hdone => ?_
    have hr' : (q.requests.set k (r.finish q.now outcome)).get? x.request = some r' := hr'
    rw [Table.get?_set hk] at hr'
    split at hr'
    · next hrequest =>
      -- the request that is marked: its edit is on the offer
      cases hr'
      cases outcome with
      | failed errorMessage => cases hdone
      | succeeded offerId =>
        right
        intro field value hvalue
        obtain ⟨a, ha, hlisting, hstored⟩ := h.recorded.stored x hx
        rw [hrequest, hk] at ha
        cases ha
        rw [← hlisting]
        exact h.held.landed worker k offerId r hw hk field value (hstored field value hvalue)
    · exact Or.inl ⟨r', hr', hdone⟩

theorem editsOrdered_step (q : EditQueue) (a : EditAction) (h : EditsOrdered q)
    (hfits : EnqueueFits q a) : EditsOrdered (editStep q a) := by
  cases a with
  | wait seconds => exact ⟨h.recorded, h.held, h.kept⟩
  | enqueue listing activeOffer changes => exact ordered_enqueue h hfits
  | create enqueuer =>
    rw [editStep]
    split
    · next e he => exact ordered_create h (hfits e he)
    · exact h
  | start =>
    refine ⟨h.recorded, h.held.sub fun w x k hx hk => ?_, h.kept⟩
    have hx : (q.workers.create (.started q.now)).get? w = some x := hx
    rw [Table.get?_create] at hx
    split at hx
    · cases hx
      cases hk
    · exact hx
  | look worker =>
    rw [editStep]
    split
    · next hw => exact ordered_look h hw
    · exact h
  | take worker locked =>
    rw [editStep]
    split
    · next hw => exact ordered_take h hw
    · exact h
  | edit worker view answer =>
    rw [editStep]
    split
    · next k hw =>
      split
      · next r hk => exact ordered_edit h view answer hw hk
      · exact h
    · exact h
  | finish worker =>
    rw [editStep]
    split
    · next k outcome hw =>
      split
      · next r hk => exact ordered_finish h hw hk
      · exact h
    · exact h

/-! ### Runs -/

theorem editsOrdered_start : EditsOrdered {} := by
  refine ⟨⟨by simp, nofun, by simp, List.Pairwise.nil⟩, ⟨by simp, by simp, by simp⟩, ?_⟩
  intro later x earlier hsplit
  simp at hsplit

/-- **Accepted edits are kept**: once its request is SUCCEEDED, each field of an accepted
enqueue is on the offer or was set by a later enqueue of the listing, in every run in which an
enqueue that is returned a request finds its changes there, and none creates a request
beside an outstanding one. -/
theorem edits_kept (es : List EditAction) (h : Along editStep EnqueueFits {} es) :
    Always editStep EditsKept {} es :=
  (always_of_along editsOrdered_step editsOrdered_start h).mono fun _ h => h.kept

/-- A title is enqueued, and the request is processed. -/
def oneEdit : List EditAction :=
  [.enqueue 1 none { title := some "a" }, .create 0, .start, .look 0, .take 0 [],
    .edit 0 {} (.updated "9"), .finish 0]

theorem edits_kept_once : Always editStep EditsKept {} oneEdit := by
  apply edits_kept
  refine ⟨?_, ?_, trivial, trivial, trivial, trivial, trivial, trivial⟩
  · rintro k r hout
    cases hout
  · rintro e he
    cases he
    decide +kernel

/-- A second title is enqueued while the first is QUEUED. -/
def secondTitle : List EditAction :=
  [.enqueue 1 none { title := some "a" }, .create 0, .enqueue 1 none { title := some "b" }, .start,
    .look 0, .take 0 [], .edit 0 {} (.updated "9"), .finish 0]

/-- Two enqueues find no request; the edit of the older one takes longer than the gap. -/
def olderLast : List EditAction :=
  [.enqueue 1 none { title := some "a" }, .enqueue 1 none { title := some "b" }, .create 0,
    .create 1, .start, .look 0, .take 0 [], .wait 60, .start, .look 1, .take 1 [],
    .edit 1 {} (.updated "9"), .finish 1, .edit 0 {} (.updated "9")]

/-- The second title is never sent, and the older edit overwrites the newer one. -/
theorem edits_lost :
    ¬ Always editStep EditsKept {} secondTitle ∧ ¬ Always editStep EditsKept {} olderLast := by
  constructor
  · intro h
    rcases h.last [] ⟨1, { title := some "b" }, 0⟩ _ rfl _ rfl rfl .title "b" rfl with
      hcarries | ⟨y, hy, -⟩
    · exact absurd hcarries (by decide +kernel)
    · cases hy
  · intro h
    rcases h.last [] ⟨1, { title := some "b" }, 1⟩ _ rfl _ rfl rfl .title "b" rfl with
      hcarries | ⟨y, hy, -⟩
    · exact absurd hcarries (by decide +kernel)
    · cases hy

end Sda.Edit
