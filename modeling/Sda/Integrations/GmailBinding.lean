/-
Sda/Integrations/GmailBinding.lean

The order events of PlayerAuctions over whole runs of their receiver.

A row is followed from its first request on: it is unmatched until a transaction binds it, and
from then on nothing but a deletion changes it.  The log of the bindings says to what.

Main results: `binding_kept` — an event is bound once, for ever, whatever later requests say;
`handed_over_exact` — what is handed over belongs to the event's binding and to an order that is
delivered; `answers_exact` — what the sender is told about an event.
-/
import Sda.Integrations.GmailEvents

namespace Sda.GmailEvents

variable {pf : Platform} {secret : List Char} {n i k : Nat} {eventId : List Char} {e : EventRow}
  {l : Listing} {p : Payload} {d : Disposition} {s s' : State}

/-! ### An event and its binding -/

/-- What a later row of an event says: its message is the same, and once it is decided, it only
loses what is deleted. -/
structure Keeps (e e' : EventRow) : Prop where
  message : e'.source = e.source ∧ e'.externalOrderId = e.externalOrderId ∧
    e'.trackingCode = e.trackingCode ∧ e'.market = e.market ∧
    e'.automaticDelivery = e.automaticDelivery ∧ e'.observedAtMs = e.observedAtMs
  decided : e.disposition ≠ .unmatched → e'.disposition = e.disposition ∧
    e'.account = e.account ∧ (e'.listing = e.listing ∨ e'.listing = none) ∧
    (e'.order = e.order ∨ e'.order = none)

theorem Keeps.refl (e : EventRow) : Keeps e e :=
  ⟨⟨rfl, rfl, rfl, rfl, rfl, rfl⟩, fun _ => ⟨rfl, rfl, Or.inl rfl, Or.inl rfl⟩⟩

theorem Keeps.trans {a b c : EventRow} (h : Keeps a b) (h' : Keeps b c) : Keeps a c where
  message := by
    obtain ⟨h1, h2, h3, h4, h5, h6⟩ := h.message
    obtain ⟨k1, k2, k3, k4, k5, k6⟩ := h'.message
    exact ⟨k1.trans h1, k2.trans h2, k3.trans h3, k4.trans h4, k5.trans h5, k6.trans h6⟩
  decided hd := by
    obtain ⟨h1, h2, h3, h4⟩ := h.decided hd
    obtain ⟨k1, k2, k3, k4⟩ := h'.decided (h1 ▸ hd)
    refine ⟨k1.trans h1, k2.trans h2, ?_, ?_⟩
    · rcases k3 with k3 | k3
      · rw [k3]
        exact h3
      · exact Or.inr k3
    · rcases k4 with k4 | k4
      · rw [k4]
        exact h4
      · exact Or.inr k4

theorem keeps_unlink (e : EventRow) (listing order : Option Nat) :
    Keeps e (e.unlink listing order) := by
  refine ⟨⟨rfl, rfl, rfl, rfl, rfl, rfl⟩, fun _ => ⟨rfl, rfl, ?_, ?_⟩⟩
  · show (if _ then none else e.listing) = _ ∨ (if _ then none else e.listing) = none
    split
    · exact Or.inr rfl
    · exact Or.inl rfl
  · show (if _ then none else e.order) = _ ∨ (if _ then none else e.order) = none
    split
    · exact Or.inr rfl
    · exact Or.inl rfl

/-- The events that are bound, and what is handed over: `Q` says of an event which texts of its
id a handover may carry. -/
structure Linked (Q : Nat → List Char → Prop) (s : State) : Prop where
  once : (s.bound.map (·.1)).Nodup
  bound : ∀ n i k, (n, i, k) ∈ s.bound → ∃ e, s.events.get? n = some e ∧
    e.disposition ≠ .unmatched ∧ (e.listing = none ∨ e.listing = some i) ∧
    (e.order = none ∨ e.order = some k)
  row : ∀ n e, s.events.get? n = some e → e.disposition ≠ .unmatched →
    ∃ i k, (n, i, k) ∈ s.bound
  handed : ∀ n sale, (n, sale) ∈ s.handovers → ∃ i k eventId,
    (n, i, k) ∈ s.bound ∧ sale = saleOf eventId i k ∧ Q n eventId

/-- What a later state says of the events. -/
structure Follows (s s' : State) : Prop where
  bound : s.bound <+: s'.bound
  events : ∀ n e, s.events.get? n = some e → ∃ e', s'.events.get? n = some e' ∧ Keeps e e'

theorem Follows.refl (s : State) : Follows s s :=
  ⟨List.prefix_refl _, fun _ e h => ⟨e, h, Keeps.refl e⟩⟩

theorem Follows.trans {s'' : State} (h : Follows s s') (h' : Follows s' s'') : Follows s s'' where
  bound := h.bound.trans h'.bound
  events n e he := by
    obtain ⟨e', he', hk⟩ := h.events n e he
    obtain ⟨e'', he'', hk'⟩ := h'.events n e' he'
    exact ⟨e'', he'', hk.trans hk'⟩

variable {Q : Nat → List Char → Prop}

theorem Linked.congr (h : Linked Q s) (hevents : s'.events = s.events)
    (hbound : s'.bound = s.bound) (hhandovers : s'.handovers = s.handovers) : Linked Q s' := by
  obtain ⟨h1, h2, h3, h4⟩ := h
  exact ⟨by rw [hbound]; exact h1, by rw [hbound, hevents]; exact h2,
    by rw [hbound, hevents]; exact h3, by rw [hbound, hhandovers]; exact h4⟩

theorem follows_congr (hevents : s'.events = s.events) (hbound : s'.bound = s.bound) :
    Follows s s' := by
  refine ⟨by rw [hbound], fun n e he => ⟨e, ?_, Keeps.refl e⟩⟩
  rw [hevents]
  exact he

/-- A row with nothing bound is not among the bound. -/
theorem Linked.not_bound (h : Linked Q s)
    (hn : ∀ e, s.events.get? n = some e → e.disposition = .unmatched) :
    n ∉ s.bound.map (·.1) := by
  intro hmem
  obtain ⟨⟨m, i, k⟩, hb, rfl⟩ := List.mem_map.mp hmem
  obtain ⟨e, he, hd, -⟩ := h.bound m i k hb
  exact hd (hn e he)

theorem Binds.linked (h : Binds n eventId e i l k d s s') (hs : Linked Q s)
    (hn : ∀ e, s.events.get? n = some e → e.disposition = .unmatched) (hQ : Q n eventId) :
    Linked Q s' := by
  have hget : ∀ m, s'.events.get? m = if m = n then some
      { e with account := l.account, listing := some i, order := some k, disposition := d }
      else s.events.get? m := by
    intro m
    rw [h.events]
    exact Table.get?_put
  have hnew : (n, i, k) ∈ s'.bound := by
    rw [h.bound]
    exact List.mem_append_right _ (List.mem_singleton_self _)
  refine ⟨?_, fun m j q hm => ?_, fun m e' hm hd => ?_, fun m sale hm => ?_⟩
  · rw [h.bound, List.map_append, List.nodup_append]
    refine ⟨hs.once, List.nodup_singleton _, fun m hm m' hm' heq => ?_⟩
    rw [List.map_singleton, List.mem_singleton] at hm'
    rw [hm'] at heq
    have hmn : m = n := heq
    exact hs.not_bound hn (hmn ▸ hm)
  · rw [h.bound, List.mem_append, List.mem_singleton] at hm
    rcases hm with hm | hm
    · have hne : m ≠ n := fun heq =>
        hs.not_bound hn (List.mem_map.mpr ⟨(m, j, q), hm, heq⟩)
      rw [hget, if_neg hne]
      exact hs.bound m j q hm
    · cases hm
      exact ⟨_, (hget n).trans (if_pos rfl), h.decided, Or.inr rfl, Or.inr rfl⟩
  · rw [hget] at hm
    split at hm
    · next hmn => exact ⟨i, k, hmn ▸ hnew⟩
    · obtain ⟨j, q, hb⟩ := hs.row m e' hm hd
      rw [h.bound]
      exact ⟨j, q, List.mem_append_left _ hb⟩
  · have hold : ∀ m sale, (m, sale) ∈ s.handovers → ∃ j q eventId,
        (m, j, q) ∈ s'.bound ∧ sale = saleOf eventId j q ∧ Q m eventId := by
      intro m sale hm
      obtain ⟨j, q, x, hb, heq, hx⟩ := hs.handed m sale hm
      rw [h.bound]
      exact ⟨j, q, x, List.mem_append_left _ hb, heq, hx⟩
    rcases h.handovers with heq | ⟨heq, -⟩
    · exact hold m sale (heq ▸ hm)
    · rw [heq, List.mem_append, List.mem_singleton] at hm
      rcases hm with hm | hm
      · exact hold m sale hm
      · cases hm
        exact ⟨i, k, eventId, hnew, rfl, hQ⟩

theorem Binds.follows (h : Binds n eventId e i l k d s s')
    (he : ∀ e', s.events.get? n = some e' → e' = e ∧ e.disposition = .unmatched) :
    Follows s s' := by
  refine ⟨by rw [h.bound]; exact List.prefix_append _ _, fun m e' hm => ?_⟩
  rw [h.events]
  by_cases hmn : m = n
  · subst hmn
    obtain ⟨rfl, hd⟩ := he e' hm
    exact ⟨_, Table.get?_put.trans (if_pos rfl), ⟨rfl, rfl, rfl, rfl, rfl, rfl⟩,
      fun hne => absurd hd hne⟩
  · exact ⟨e', (Table.get?_put.trans (if_neg hmn)).trans hm, Keeps.refl e'⟩

/-- A transaction: the event stays unmatched, or is bound, or was bound before. -/
theorem Outcome.linked (h : Outcome pf n p s (d, s')) (hs : Linked Q s) (hp : Q n p.eventId)
    (hn : Q n (pf.uuidText n)) : Linked Q s' ∧ Follows s s' := by
  cases h with
  | new hnew =>
    have hget : ∀ m, (s.events.put n (newEvent p)).get? m =
        if m = n then some (newEvent p) else s.events.get? m := fun m => Table.get?_put
    refine ⟨⟨hs.once, fun m i k hb => ?_, fun m e hm hd => ?_, hs.handed⟩,
      List.prefix_refl _, fun m e hm => ⟨e, ?_, Keeps.refl e⟩⟩
    · obtain ⟨e, he, hrest⟩ := hs.bound m i k hb
      have hne : m ≠ n := fun heq => by
        rw [heq, hnew] at he
        cases he
      exact ⟨e, ((hget m).trans (if_neg hne)).trans he, hrest⟩
    · have hm' := (hget m).symm.trans hm
      split at hm'
      · cases hm'
        exact absurd rfl hd
      · exact hs.row m e hm' hd
    · have hne : m ≠ n := fun heq => by
        rw [heq, hnew] at hm
        cases hm
      exact ((hget m).trans (if_neg hne)).trans hm
  | still => exact ⟨hs, Follows.refl s⟩
  | @binds e eventId i l k d s' he hl hlisted hbinds =>
    have hQ : Q n eventId := by
      rcases he with ⟨-, -, rfl⟩ | ⟨-, -, rfl⟩
      · exact hp
      · exact hn
    have hrow : ∀ e', s.events.get? n = some e' → e' = e ∧ e.disposition = .unmatched := by
      intro e' he'
      rcases he with ⟨hnone, -⟩ | ⟨hsome, hd, -⟩
      · rw [hnone] at he'
        cases he'
      · rw [hsome] at he'
        cases he'
        exact ⟨rfl, hd⟩
    exact ⟨hbinds.linked hs (fun e' he' => by
      obtain ⟨rfl, hd⟩ := hrow e' he'
      exact hd) hQ, hbinds.follows hrow⟩
  | @again e s' he hd hcases =>
    rcases hcases with rfl | ⟨i, k, hi, hk, hfinal⟩
    · exact ⟨hs, Follows.refl _⟩
    · obtain ⟨orders, handovers, rfl⟩ := hfinal.rest
      refine ⟨⟨hs.once, hs.bound, hs.row, fun m sale hm => ?_⟩, follows_congr rfl rfl⟩
      rcases hfinal.handovers with heq | ⟨heq, -⟩
      · exact hs.handed m sale (heq ▸ hm)
      · have hm' : (m, sale) ∈ s.handovers ++ [(n, saleOf (pf.uuidText n) i k)] := heq ▸ hm
        rcases List.mem_append.mp hm' with hold | hlast
        · exact hs.handed m sale hold
        · cases List.mem_singleton.mp hlast
          -- the row says what it is bound to
          obtain ⟨j, q, hb⟩ := hs.row n e he hd
          obtain ⟨e', he', -, hlisting, horder⟩ := hs.bound n j q hb
          rw [he] at he'
          cases he'
          have hji : j = i := by
            rcases hlisting with h | h
            · rw [h] at hi
              cases hi
            · rw [h] at hi
              exact Option.some.inj hi
          have hqk : q = k := by
            rcases horder with h | h
            · rw [h] at hk
              cases hk
            · rw [h] at hk
              exact Option.some.inj hk
          exact ⟨i, k, pf.uuidText n, hji ▸ hqk ▸ hb, rfl, hn⟩

/-! ### The answers -/

/-- The answers about an event. -/
def State.answersOf (s : State) (n : Nat) : List Disposition :=
  (s.answers.filter (·.1 == n)).map (·.2)

/-- What was answered about an event: that it is unmatched, until it is bound; then what came of
it; and from then on that it is there. -/
def Told (row : Option EventRow) (answers : List Disposition) : Prop :=
  match row with
  | none => answers = []
  | some e =>
    if e.disposition = .unmatched then ∃ k, answers = List.replicate k .unmatched
    else ∃ k m, answers =
      List.replicate k .unmatched ++ e.disposition :: List.replicate m .duplicate

def Answered (s : State) : Prop := ∀ n, Told (s.events.get? n) (s.answersOf n)

theorem answersOf_append (s : State) (n m : Nat) (d : Disposition) :
    ({ s with answers := s.answers ++ [(n, d)] } : State).answersOf m =
      s.answersOf m ++ if m = n then [d] else [] := by
  show ((s.answers ++ [(n, d)]).filter (·.1 == m)).map (·.2) = _
  rw [List.filter_append, List.map_append]
  by_cases hm : m = n
  · subst hm
    simp [State.answersOf]
  · have hne : (n == m) = false := by simpa using Ne.symm hm
    simp [State.answersOf, hm, hne]

theorem told_unmatched {answers : List Disposition} (hd : e.disposition = .unmatched) :
    Told (some e) answers ↔ ∃ k, answers = List.replicate k .unmatched := by
  show (if e.disposition = .unmatched then _ else _) ↔ _
  rw [if_pos hd]

theorem told_decided {answers : List Disposition} (hd : e.disposition ≠ .unmatched) :
    Told (some e) answers ↔ ∃ k m, answers =
      List.replicate k .unmatched ++ e.disposition :: List.replicate m .duplicate := by
  show (if e.disposition = .unmatched then _ else _) ↔ _
  rw [if_neg hd]

/-- The answer of a transaction goes on with what was answered before. -/
theorem Outcome.answered (h : Outcome pf n p s (d, s')) (hs : Answered s) :
    Answered { s' with answers := s'.answers ++ [(n, d)] } := by
  intro m
  rw [answersOf_append]
  have hsame : s'.answersOf m = s.answersOf m := by
    unfold State.answersOf
    rw [h.answers]
  rw [hsame]
  have hm := hs m
  cases h with
  | new hnew =>
    show Told ((s.events.put n (newEvent p)).get? m) _
    rw [Table.get?_put]
    by_cases hmn : m = n
    · subst hmn
      rw [hnew] at hm
      rw [if_pos rfl, if_pos rfl, hm]
      exact (told_unmatched rfl).mpr ⟨1, rfl⟩
    · rw [if_neg hmn, if_neg hmn, List.append_nil]
      exact hm
  | @still e he hd =>
    show Told (s.events.get? m) _
    by_cases hmn : m = n
    · subst hmn
      rw [he] at hm ⊢
      obtain ⟨k, hk⟩ := (told_unmatched hd).mp hm
      rw [if_pos rfl, hk]
      exact (told_unmatched hd).mpr ⟨k + 1, List.replicate_succ'.symm⟩
    · rw [if_neg hmn, List.append_nil]
      exact hm
  | @binds e eventId i l k d s' he hl hlisted hbinds =>
    show Told (s'.events.get? m) _
    rw [hbinds.events, Table.get?_put]
    by_cases hmn : m = n
    · subst hmn
      rw [if_pos rfl, if_pos rfl]
      refine (told_decided hbinds.decided).mpr ?_
      rcases he with ⟨hnone, -⟩ | ⟨hsome, hd, -⟩
      · rw [hnone] at hm
        rw [show s.answersOf m = [] from hm]
        exact ⟨0, 0, rfl⟩
      · rw [hsome] at hm
        obtain ⟨q, hq⟩ := (told_unmatched hd).mp hm
        rw [hq]
        exact ⟨q, 0, rfl⟩
    · rw [if_neg hmn, if_neg hmn, List.append_nil]
      exact hm
  | @again e s' he hd hcases =>
    have hevents : s'.events = s.events := by
      rcases hcases with rfl | ⟨i, k, -, -, hfinal⟩
      · rfl
      · obtain ⟨orders, handovers, rfl⟩ := hfinal.rest
        rfl
    show Told (s'.events.get? m) _
    rw [hevents]
    by_cases hmn : m = n
    · subst hmn
      rw [he] at hm ⊢
      obtain ⟨k, q, hk⟩ := (told_decided hd).mp hm
      rw [if_pos rfl, hk]
      refine (told_decided hd).mpr ⟨k, q + 1, ?_⟩
      rw [List.append_assoc, List.cons_append, List.replicate_succ']
    · rw [if_neg hmn, List.append_nil]
      exact hm

/-! ### Runs -/

/-- What holds between the events. -/
structure Inv (Q : Nat → List Char → Prop) (s : State) : Prop where
  linked : Linked Q s
  one : OneOrder s
  answered : Answered s

theorem Outcome.one (h : Outcome pf n p s (d, s')) (hs : OneOrder s) : OneOrder s' := by
  cases h with
  | new => exact hs
  | still => exact hs
  | binds _ _ _ hbinds => exact hbinds.one hs
  | again _ _ hcases =>
    rcases hcases with rfl | ⟨i, k, -, -, hfinal⟩
    · exact hs
    · exact hfinal.one hs

/-- The texts that the requests of a run may have for their ids. -/
def Allows (Q : Nat → List Char → Prop) (pf : Platform) (secret : List Char) : Event → Prop
  | .receive r _ _ => ∀ p n, authenticate pf secret r = .ok p → pf.uuid p.eventId = some n →
      Q n p.eventId ∧ Q n (pf.uuidText n)
  | _ => True

theorem allows_any (e : Event) : Allows (fun _ _ => True) pf secret e := by
  cases e with
  | receive r raises cut => exact fun _ _ _ _ => ⟨trivial, trivial⟩
  | _ => trivial

/-- Every text of an id that a handover may carry is one of the event's. -/
theorem allows_uuid (e : Event) : Allows (fun n id => pf.uuid id = some n) pf secret e := by
  cases e with
  | receive r raises cut => exact fun p n _ hid => ⟨hid, pf.uuid_uuidText _ n hid⟩
  | _ => trivial

/-- A deletion takes links away. -/
theorem unlink_follows {listing order : Option Nat} (s' : State)
    (hevents : s'.events = s.events.mapRows fun _ e => e.unlink listing order)
    (hbound : s'.bound = s.bound) (hhandovers : s'.handovers = s.handovers)
    (hanswers : s'.answers = s.answers) (hlinked : Linked Q s) (hanswered : Answered s) :
    Linked Q s' ∧ Answered s' ∧ Follows s s' := by
  have hget : ∀ m, s'.events.get? m = (s.events.get? m).map fun e => e.unlink listing order := by
    intro m
    rw [hevents]
    exact Table.get?_mapRows _ m
  refine ⟨⟨by rw [hbound]; exact hlinked.once, fun n i k hb => ?_, fun n e' he' hd => ?_, ?_⟩,
    fun n => ?_, by rw [hbound], fun n e he => ?_⟩
  · rw [hbound] at hb
    obtain ⟨e, he, hd, hi, hk⟩ := hlinked.bound n i k hb
    obtain ⟨-, -, hi', hk'⟩ := (keeps_unlink e listing order).decided hd
    refine ⟨e.unlink listing order, by rw [hget, he]; rfl, hd, ?_, ?_⟩
    · rcases hi' with h | h
      · rw [h]
        exact hi
      · exact Or.inl h
    · rcases hk' with h | h
      · rw [h]
        exact hk
      · exact Or.inl h
  · rw [hget, Option.map_eq_some_iff] at he'
    obtain ⟨e, he, rfl⟩ := he'
    rw [hbound]
    exact hlinked.row n e he hd
  · rw [hbound, hhandovers]
    exact hlinked.handed
  · have hn := hanswered n
    have hsame : s'.answersOf n = s.answersOf n := by
      unfold State.answersOf
      rw [hanswers]
    rw [hget, hsame]
    cases he : s.events.get? n with
    | none =>
      rw [he] at hn
      exact hn
    | some e =>
      rw [he] at hn
      exact hn
  · exact ⟨e.unlink listing order, by rw [hget, he]; rfl, keeps_unlink e listing order⟩

theorem Inv.congr (h : Inv Q s) (hone : OneOrder s')
    (hevents : s'.events = s.events) (hbound : s'.bound = s.bound)
    (hhandovers : s'.handovers = s.handovers) (hanswers : s'.answers = s.answers) :
    Inv Q s' ∧ Follows s s' := by
  refine ⟨⟨h.linked.congr hevents hbound hhandovers, hone, fun n => ?_⟩,
    follows_congr hevents hbound⟩
  have hsame : s'.answersOf n = s.answersOf n := by
    unfold State.answersOf
    rw [hanswers]
  rw [hevents, hsame]
  exact h.answered n

theorem taken_eq_false {o : Order} (h : taken s k o = false) {j : Nat}
    {q : Order} (hq : s.orders.get? j = some q) (hne : j ≠ k) (hsome : o.account.isSome)
    (ha : q.account = o.account) : q.storeOrderId ≠ o.storeOrderId := by
  intro hn
  have := Table.any_eq_false_iff.mp h j q hq
  simp [hne, hsome, ha, hn] at this

/-- A write to one order whose key is free. -/
theorem OneOrder.write {o : Order} (hs : OneOrder s)
    (htaken : taken s k o = false)
    (hget : ∀ j, s'.orders.get? j = if j = k then some o else s.orders.get? j) : OneOrder s' := by
  intro j m p q hj hm hsome ha hn
  rw [hget] at hj hm
  split at hj
  · next hjk =>
    cases hj
    split at hm
    · next hmk => rw [hjk, hmk]
    · next hmk => exact absurd hn (taken_eq_false htaken hm hmk hsome ha)
  · next hjk =>
    split at hm
    · cases hm
      exact absurd hn.symm (taken_eq_false htaken hj hjk (ha ▸ hsome) ha.symm)
    · exact hs j m p q hj hm hsome ha hn

theorem step_inv (s : State) (e : Event) (hs : Inv Q s) (hQ : Allows Q pf secret e) :
    Inv Q (step pf secret s e) ∧ Follows s (step pf secret s e) := by
  cases e with
  | receive r raises cut =>
    show Inv Q (receive pf secret r raises cut s).2 ∧ Follows s (receive pf secret r raises cut s).2
    rcases receive_cases pf secret r raises cut s with
      heq | ⟨p, n, d, s', hauth, hid, hout, heq⟩
    · rw [heq]
      exact ⟨hs, Follows.refl s⟩
    · rw [heq]
      obtain ⟨hp, hn⟩ := hQ p n hauth hid
      obtain ⟨hlinked, hfollows⟩ := hout.linked hs.linked hp hn
      exact ⟨⟨hlinked.congr rfl rfl rfl, hout.one hs.one, hout.answered hs.answered⟩,
        hfollows.trans (follows_congr rfl rfl)⟩
  | createListing l => exact hs.congr hs.one rfl rfl rfl rfl
  | saveListing i l =>
    show Inv Q (if (s.listings.get? i).isSome then _ else s) ∧
      Follows s (if (s.listings.get? i).isSome then _ else s)
    split
    · exact hs.congr hs.one rfl rfl rfl rfl
    · exact ⟨hs, Follows.refl s⟩
  | deleteListing i =>
    obtain ⟨hlinked, hanswered, hfollows⟩ :=
      unlink_follows (step pf secret s (.deleteListing i)) rfl rfl rfl rfl hs.linked
        hs.answered
    exact ⟨⟨hlinked, hs.one, hanswered⟩, hfollows⟩
  | createOrder o =>
    show Inv Q (if taken s s.orders.nextKey o then s else _) ∧
      Follows s (if taken s s.orders.nextKey o then s else _)
    split
    · exact ⟨hs, Follows.refl s⟩
    · next hfree =>
      exact hs.congr (hs.one.write (by simpa using hfree) fun j => Table.get?_create)
        rfl rfl rfl rfl
  | saveOrder k o =>
    show Inv Q (if (s.orders.get? k).isNone || taken s k o then s else _) ∧
      Follows s (if (s.orders.get? k).isNone || taken s k o then s else _)
    split
    · exact ⟨hs, Follows.refl s⟩
    · next hfree =>
      rw [Bool.not_eq_true, Bool.or_eq_false_iff, Option.isNone_eq_false_iff] at hfree
      obtain ⟨old, hold⟩ := Option.isSome_iff_exists.mp hfree.1
      exact hs.congr (hs.one.write hfree.2 fun j => Table.get?_set hold) rfl rfl rfl rfl
  | deleteOrder k =>
    obtain ⟨hlinked, hanswered, hfollows⟩ :=
      unlink_follows (step pf secret s (.deleteOrder k)) rfl rfl rfl rfl hs.linked
        hs.answered
    refine ⟨⟨hlinked, fun j m p q hj hm => ?_, hanswered⟩, hfollows⟩
    have hget : ∀ j, (s.orders.pop k).get? j = if j = k then none else s.orders.get? j :=
      fun j => Table.get?_pop
    have hj' := (hget j).symm.trans hj
    have hm' := (hget m).symm.trans hm
    split at hj'
    · cases hj'
    · split at hm'
      · cases hm'
      · exact hs.one j m p q hj' hm'
  | world w => exact hs.congr hs.one rfl rfl rfl rfl

theorem inv_start (w : World) : Inv Q (State.start w) where
  linked := ⟨List.nodup_nil, fun _ _ _ h => (nomatch h), fun _ _ h => (nomatch h),
    fun _ _ h => (nomatch h)⟩
  one _ _ _ _ h := nomatch h
  answered _ := rfl

theorem run_inv (es : List Event) : ∀ {s : State}, Inv Q s → (∀ e ∈ es, Allows Q pf secret e) →
    Inv Q (run (step pf secret) s es) ∧ Follows s (run (step pf secret) s es) := by
  induction es with
  | nil => exact fun hs _ => ⟨hs, Follows.refl _⟩
  | cons e es ih =>
    intro s hs hQ
    obtain ⟨hfirst, hfollows⟩ := step_inv s e hs (hQ e (List.mem_cons_self ..))
    obtain ⟨hlast, hrest⟩ := ih hfirst fun e' he' => hQ e' (List.mem_cons_of_mem _ he')
    exact ⟨hlast, hfollows.trans hrest⟩

theorem run_inv_start (pf : Platform) (secret : List Char) (w : World) (es : List Event)
    (hQ : ∀ e ∈ es, Allows Q pf secret e) :
    Inv Q (run (step pf secret) (.start w) es) :=
  (run_inv es (inv_start w) hQ).1

/-- **An event is bound once.**  In every run an event is bound to at most one listing and order,
and however the run goes on, it stays bound to them, and its message stays the same, whatever
later requests for its id say.  A decided event has a binding, of which its row may lose what is
deleted; and an account has at most one order of a number. -/
theorem binding_kept (pf : Platform) (secret : List Char) (w : World) (es fs : List Event) :
    let s := run (step pf secret) (.start w) es
    let s' := run (step pf secret) (.start w) (es ++ fs)
    (s.bound.map (·.1)).Nodup ∧ s.bound <+: s'.bound ∧
      (∀ n e, s.events.get? n = some e → ∃ e', s'.events.get? n = some e' ∧ Keeps e e') ∧
      (∀ n e, s.events.get? n = some e → e.disposition ≠ .unmatched →
        ∃ i k, (n, i, k) ∈ s.bound ∧ (e.listing = none ∨ e.listing = some i) ∧
          (e.order = none ∨ e.order = some k)) ∧
      OneOrder s' := by
  have hs := run_inv_start pf secret w es fun e _ => allows_any e
  obtain ⟨hs', hfollows⟩ := run_inv fs hs fun e _ => allows_any e
  rw [← run_append] at hs' hfollows
  refine ⟨hs.linked.once, hfollows.bound, hfollows.events, fun n e he hd => ?_, hs'.one⟩
  obtain ⟨i, k, hb⟩ := hs.linked.row n e he hd
  obtain ⟨e', he', -, hlinks⟩ := hs.linked.bound n i k hb
  rw [he] at he'
  cases he'
  exact ⟨i, k, hb, hlinks⟩

/-- What a transaction hands over is backed. -/
theorem Outcome.backed (h : Outcome pf n p s (d, s')) (hs : Linked Q s) {m : Nat}
    {sale : SaleNotification} (hm : (m, sale) ∈ s'.handovers) : (m, sale) ∈ s.handovers ∨ ∃ i k, (m, i, k) ∈ s'.bound ∧
      sale.listing = i ∧ sale.orderId = some k ∧ Backed s' m i k := by
  cases h with
  | new => exact Or.inl hm
  | still => exact Or.inl hm
  | @binds e eventId i l k d s' he hl hlisted hbinds =>
    rcases hbinds.handovers with heq | ⟨heq, hbacked⟩
    · exact Or.inl (heq ▸ hm)
    · rw [heq, List.mem_append, List.mem_singleton] at hm
      rcases hm with hm | hm
      · exact Or.inl hm
      · cases hm
        refine Or.inr ⟨i, k, ?_, rfl, rfl, hbacked⟩
        rw [hbinds.bound]
        exact List.mem_append_right _ (List.mem_singleton_self _)
  | @again e s' he hd hcases =>
    rcases hcases with rfl | ⟨i, k, hi, hk, hfinal⟩
    · exact Or.inl hm
    · obtain ⟨orders, handovers, rfl⟩ := hfinal.rest
      rcases hfinal.handovers with heq | ⟨heq, hauto, hlinked, horder⟩
      · exact Or.inl (heq ▸ hm)
      · have hm' : (m, sale) ∈ s.handovers ++ [(n, saleOf (pf.uuidText n) i k)] := heq ▸ hm
        rcases List.mem_append.mp hm' with hold | hlast
        · exact Or.inl hold
        · cases List.mem_singleton.mp hlast
          obtain ⟨j, q, hb⟩ := hs.row n e he hd
          obtain ⟨e', he', -, hlisting, horder'⟩ := hs.bound n j q hb
          rw [he] at he'
          cases he'
          rw [hi] at hlisting
          rw [hk] at horder'
          have hji : i = j := Option.some.inj (hlisting.resolve_left (Option.some_ne_none i))
          have hqk : k = q := Option.some.inj (horder'.resolve_left (Option.some_ne_none k))
          refine Or.inr ⟨i, k, ?_, rfl, rfl, ⟨e, he, hauto⟩, horder, hlinked⟩
          rw [hji, hqk]
          exact hb

/-- Only requests hand over. -/
theorem step_handovers (s : State) {e : Event} (he : ∀ r raises cut, e ≠ .receive r raises cut) :
    (step pf secret s e).handovers = s.handovers := by
  cases e with
  | receive r raises cut => exact absurd rfl (he r raises cut)
  | saveListing i l =>
    show (if (s.listings.get? i).isSome then _ else s : State).handovers = _
    split <;> rfl
  | createOrder o =>
    show (if taken s s.orders.nextKey o then s else _ : State).handovers = _
    split <;> rfl
  | saveOrder k o =>
    show (if (s.orders.get? k).isNone || taken s k o then s else _ : State).handovers = _
    split <;> rfl
  | createListing | deleteListing | deleteOrder | world => rfl

/-- The binding of an event is one. -/
theorem Linked.bound_unique (h : Linked Q s) {j q : Nat}
    (hi : (n, i, k) ∈ s.bound) (hj : (n, j, q) ∈ s.bound) : i = j ∧ k = q := by
  have heq := List.inj_on_of_nodup_map h.once hi hj rfl
  cases heq
  exact ⟨rfl, rfl⟩

theorem saleOf_injective {a b : List Char} {j q : Nat}
    (h : (saleOf a i k).eventKey = (saleOf b j q).eventKey) : a = b := by
  have hlist := congrArg String.toList h
  simp only [saleOf, String.toList_ofList] at hlist
  exact List.append_cancel_left hlist

/-- **What is handed over is exact.**  A step hands an event over only with the listing and order
that it is bound to, when it is an automatic delivery, the order is delivered, and the listing
has one clone, with its product.  In every run the handovers of an event are of one listing and
order, and no two events have a handover of the same key; and if the sender writes ids the way
they are stored, the handovers of an event are the same, so that the sale path knows them. -/
theorem handed_over_exact (pf : Platform) (secret : List Char) (w : World) (es : List Event) :
    let s := run (step pf secret) (.start w) es
    Along (step pf secret) (fun s e => ∀ n sale, (n, sale) ∈ (step pf secret s e).handovers →
        (n, sale) ∈ s.handovers ∨ ∃ i k, (n, i, k) ∈ (step pf secret s e).bound ∧
          sale.listing = i ∧ sale.orderId = some k ∧ Backed (step pf secret s e) n i k)
        (.start w) es ∧
      (∀ n a b, (n, a) ∈ s.handovers → (n, b) ∈ s.handovers →
        a.listing = b.listing ∧ a.orderId = b.orderId) ∧
      (∀ n m a b, (n, a) ∈ s.handovers → (m, b) ∈ s.handovers → a.eventKey = b.eventKey → n = m) ∧
      ((∀ e ∈ es, Allows (fun n id => id = pf.uuidText n) pf secret e) →
        ∀ n a b, (n, a) ∈ s.handovers → (n, b) ∈ s.handovers → a = b) := by
  have hs := (run_inv_start pf secret w es fun e _ => allows_uuid e).linked
  refine ⟨?_, fun n a b ha hb => ?_, fun n m a b ha hb hkey => ?_, fun hcanon n a b ha hb => ?_⟩
  · refine along_of_along (fun s e hinv _ => (step_inv s e hinv (allows_uuid e)).1)
      (fun s e hinv _ n sale hmem => ?_) (inv_start w) (along_of_forall (fun _ _ => trivial) _ es)
    by_cases hreceive : ∃ r raises cut, e = .receive r raises cut
    · obtain ⟨r, raises, cut, rfl⟩ := hreceive
      rcases receive_cases pf secret r raises cut s with
        heq | ⟨p, n', d, s', -, -, hout, heq⟩
      · have hstate : step pf secret s (.receive r raises cut) = s := heq
        rw [hstate] at hmem
        exact Or.inl hmem
      · have hstate : step pf secret s (.receive r raises cut) =
          { s' with answers := s'.answers ++ [(n', d)] } := heq
        rw [hstate] at hmem ⊢
        refine (hout.backed hinv.linked hmem).imp_right ?_
        rintro ⟨i, k, hb, hi, hk, hbacked⟩
        exact ⟨i, k, hb, hi, hk, hbacked.automatic, hbacked.sold, hbacked.linked⟩
    · rw [step_handovers s fun r raises cut h => hreceive ⟨r, raises, cut, h⟩] at hmem
      exact Or.inl hmem
  · obtain ⟨i, k, x, hi, rfl, -⟩ := hs.handed n a ha
    obtain ⟨j, q, y, hj, rfl, -⟩ := hs.handed n b hb
    obtain ⟨rfl, rfl⟩ := hs.bound_unique hi hj
    exact ⟨rfl, rfl⟩
  · obtain ⟨i, k, x, -, rfl, hx⟩ := hs.handed n a ha
    obtain ⟨j, q, y, -, rfl, hy⟩ := hs.handed m b hb
    have hxy : x = y := saleOf_injective hkey
    rw [hxy, hy] at hx
    exact (Option.some.inj hx).symm
  · have hs' := (run_inv_start pf secret w es hcanon).linked
    obtain ⟨i, k, x, hi, rfl, rfl⟩ := hs'.handed n a ha
    obtain ⟨j, q, y, hj, rfl, rfl⟩ := hs'.handed n b hb
    obtain ⟨rfl, rfl⟩ := hs'.bound_unique hi hj
    rfl

/-- **What the sender is told.**  In every run the answers about an event are that it is
unmatched, as long as it is; once, at its binding, whether its order was created; and from then
on that it is there. -/
theorem answers_exact (pf : Platform) (secret : List Char) (w : World) (es : List Event) (n : Nat) :
    let s := run (step pf secret) (.start w) es
    Told (s.events.get? n) (s.answersOf n) := by
  exact (run_inv_start pf secret w es fun e _ => allows_any e).answered n

end Sda.GmailEvents
