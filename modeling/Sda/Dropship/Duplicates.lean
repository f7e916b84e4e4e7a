/-
Sda/Dropship/Duplicates.lean

Histories of poster cycles, and the offers they leave at the marketplace.

The poster remembers an offer only by the rows of the transaction that ends `_attempt_post`, and
a cycle decides from these rows (and from what it has fetched itself) which items are new.  A
history is made of the steps of the thread, of restarts of the thread at any statement, and of
removals by the cleaner.

* `stays_single` — while every create call the marketplace accepts ends in its rows, no item
  ever has two live offers;
* `posted_twice` — a create call that times out after it was accepted.
-/
import Sda.Dropship.Poster
import Sda.Lib.Run

namespace Sda.Dropship

open Sync (DropshipProductStatus)

/-! ### Histories -/

inductive Event
  | act (a : Action)
  /-- The thread dies where it stands, and another begins. -/
  | restart (cycles : List Cycle)
  /-- The cleaner has removed the offers of an item that was sold, or whose price has changed. -/
  | removed (id : String) (sold : Bool)

/-- The offers go that a listing knows of. -/
def Poster.removed (s : Poster) (id : String) (sold : Bool) : Poster :=
  if s.products.lookup id = some .listed then
    { s with
      products := (id, if sold then .sold else .deleted) :: s.products
      listings := s.listings.filter fun l => l.item ≠ id
      offers := s.offers.filter fun o => o.item ≠ id || !o.recorded }
  else s

def history (cfg : Config) (s : Poster) : Event → Poster
  | .act a => step cfg s a
  | .restart cycles => { s with toPace := {}, upcoming := cycles, phase := .cycle }
  | .removed id sold => s.removed id sold

/-- No two live offers are of one item. -/
def Single (s : Poster) : Prop := (s.offers.map (·.item)).Nodup

/-- If the marketplace accepts the offer, the client is told and everything after it succeeds. -/
def Answers.Kept (cfg : Config) (a : Answers) : Prop :=
  match a.create with
  | .rejected _ => True
  | .lost _ => False
  | .created => a.raises = false ∧ cfg.hasCategory = true

/-- What the marketplace accepts is kept. -/
def Keeps (cfg : Config) (_ : Poster) : Event → Prop
  | .act (.attempt a) => a.Kept cfg
  | _ => True

/-! ### What the rows know -/

variable {cfg : Config} {s s' : Poster} {item : Item} {items : List Item} {c : Cycle}
  {todo : List TargetUrl} {router : VariantRouter} {r : Attempt}

/-- The thread is in a cycle, whose resolver has been built. -/
def Phase.Busy : Phase → Prop
  | .cycle | .ended => False
  | .urls .. | .fetch .. | .post .. | .fallback .. => True

/-- The items that are still to be posted. -/
def Phase.pending : Phase → List Item
  | .cycle | .ended | .urls .. => []
  | .fetch _ _ _ _ items | .post _ _ _ items => items
  | .fallback _ _ _ items item _ => item :: items

/-- Every live offer is in the rows, and the resolver has seen it; what is still to be posted has
none. -/
structure Known (s : Poster) : Prop where
  blocked : ∀ o ∈ s.offers, blocks (s.products.lookup o.item) = true ∧ o.recorded = true
  single : Single s
  seen : s.phase.Busy → ∀ o ∈ s.offers, s.seen o.item = true
  pending : ∀ i ∈ s.phase.pending, s.seen i.id = true ∧ ∀ o ∈ s.offers, o.item ≠ i.id
  distinct : (s.phase.pending.map (·.id)).Nodup

/-- The thread moves on, and perhaps drops items. -/
theorem Known.moves (h : Known s) (hoffers : s'.offers = s.offers)
    (hproducts : s'.products = s.products) (hseen : s'.seen = s.seen)
    (hbusy : s'.phase.Busy → s.phase.Busy)
    (hpending : s'.phase.pending.Sublist s.phase.pending) : Known s' := by
  refine ⟨?_, ?_, ?_, ?_, h.distinct.sublist (hpending.map _)⟩
  · rw [hoffers, hproducts]
    exact h.blocked
  · unfold Single
    rw [hoffers]
    exact h.single
  · rw [hoffers, hseen]
    exact fun hb => h.seen (hbusy hb)
  · rw [hoffers, hseen]
    exact fun i hi => h.pending i (hpending.subset hi)

/-- An item is posted, and its rows are written. -/
theorem Known.posts (h : Known s) (hbusy : s.phase.Busy)
    (hpending : s.phase.pending = item :: items) (hcreated : r.created = true)
    (hrecorded : r.recorded.isSome = true) (hoffers : s'.offers = (s.save item r).offers)
    (hproducts : s'.products = (s.save item r).products) (hseen : s'.seen = s.seen)
    (hrest : s'.phase.pending.Sublist items) : Known s' := by
  have hnew := h.pending item (by rw [hpending]; exact List.mem_cons_self)
  have hsaved : s'.offers = ⟨item.id, true⟩ :: s.offers := by
    rw [hoffers]
    show (if r.created = true then _ else _) = _
    rw [if_pos hcreated, hrecorded]
  have hlisted : s'.products = (item.id, .listed) :: s.products := by
    rw [hproducts]
    exact if_pos hrecorded
  have hdistinct := h.distinct
  rw [hpending, List.map_cons, List.nodup_cons] at hdistinct
  refine ⟨?_, ?_, fun _ => ?_, ?_, hdistinct.2.sublist (hrest.map _)⟩
  · rw [hsaved, hlisted]
    intro o ho
    rcases List.mem_cons.mp ho with rfl | hold
    · exact ⟨by simp [blocks], rfl⟩
    · have hne : o.item ≠ item.id := hnew.2 o hold
      rw [List.lookup_cons, beq_eq_false_iff_ne.mpr hne]
      exact h.blocked o hold
  · unfold Single
    rw [hsaved, List.map_cons, List.nodup_cons]
    refine ⟨?_, h.single⟩
    intro hmem
    obtain ⟨o, ho, hitem⟩ := List.mem_map.mp hmem
    exact hnew.2 o ho hitem
  · rw [hsaved, hseen]
    intro o ho
    rcases List.mem_cons.mp ho with rfl | hold
    · exact hnew.1
    · exact h.seen hbusy o hold
  · rw [hsaved, hseen]
    intro i hi
    have hi := hrest.subset hi
    have hold := h.pending i (by rw [hpending]; exact List.mem_cons_of_mem _ hi)
    refine ⟨hold.1, fun o ho => ?_⟩
    rcases List.mem_cons.mp ho with rfl | hmem
    · intro heq
      apply hdistinct.1
      have heq : item.id = i.id := heq
      rw [heq]
      exact List.mem_map_of_mem hi
    · exact hold.2 o hmem

/-! ### The steps -/

/-- An attempt whose answers are kept leaves no offer without rows. -/
theorem attemptPost_kept {stopped : Bool} {a : Answers} (h : a.Kept cfg)
    (hcreated : (attemptPost cfg router stopped item a).created = true) :
    (attemptPost cfg router stopped item a).recorded.isSome = true := by
  rcases attemptPost_cases cfg router stopped item a with
    hunsent | ⟨v, region, _, _, _, _, _, hsent⟩
  · rw [hunsent.created] at hcreated
    cases hcreated
  · rw [hsent] at hcreated ⊢
    unfold Answers.Kept at h
    unfold createOffer at hcreated ⊢
    split
    · next hcreate =>
      rw [hcreate] at hcreated
      cases hcreated
    · next hcreate =>
      rw [hcreate] at h
      exact h.elim
    · next hcreate =>
      rw [hcreate] at h
      have hfine : ¬ (a.raises = true ∨ cfg.hasCategory = false) := by
        rw [h.1, h.2]
        decide
      rw [if_neg hfine]
      rfl

/-- Without a new offer nothing is saved. -/
theorem save_nothing (hcreated : r.created = false) (hrecorded : r.recorded = none) :
    s.save item r = s := by
  unfold Poster.save
  rw [hcreated, hrecorded]
  rfl

/-- Where every new offer is recorded, nothing is saved of an attempt that records nothing. -/
theorem save_unrecorded (hkept : r.created = true → r.recorded.isSome = true)
    (hnot : ¬r.recorded.isSome = true) : s.save item r = s := by
  apply save_nothing
  · rw [← Bool.not_eq_true]
    exact fun hon => hnot (hkept hon)
  · simpa using hnot

theorem known_handle (h : Known s) (hbusy : s.phase.Busy)
    (hpending : items.Sublist s.phase.pending) (e : ErrorTracker × Handled) :
    Known (s.handle c todo router items e) := by
  unfold Poster.handle
  dsimp only
  split
  · exact h.moves rfl rfl rfl (fun _ => hbusy) hpending
  · exact h.moves rfl rfl rfl False.elim (List.nil_sublist _)
  · exact h.moves rfl rfl rfl (fun _ => hbusy) (List.nil_sublist _)

/-- One attempt of the loop over the items. -/
theorem known_postItem (h : Known s) (hbusy : s.phase.Busy)
    (hpending : s.phase.pending = item :: items)
    (hkept : r.created = true → r.recorded.isSome = true)
    (hposted : r.outcome = .posted ↔ r.recorded.isSome = true)
    (hcreated : r.recorded.isSome = true → r.created = true) :
    Known (s.postItem cfg c todo item items r) := by
  unfold Poster.postItem
  dsimp only
  by_cases hrecorded : r.recorded.isSome = true
  · rw [hposted.mpr hrecorded]
    exact h.posts hbusy hpending (hcreated hrecorded) hrecorded rfl rfl rfl
      (List.Sublist.refl _)
  · have hrest : items.Sublist s.phase.pending := by
      rw [hpending]
      exact List.sublist_cons_self _ _
    rw [save_unrecorded hkept hrecorded]
    split
    · next hout => exact absurd (hposted.mp hout) hrecorded
    · exact h.moves rfl rfl rfl (fun _ => hbusy) hrest
    · exact h.moves rfl rfl rfl (fun _ => hbusy) hrest
    · exact h.moves rfl rfl rfl (fun _ => hbusy) (List.nil_sublist _)
    · exact known_handle h hbusy hrest _
    · exact known_handle h hbusy hrest _
    · exact known_handle h hbusy hrest _
    · refine h.moves rfl rfl rfl (fun _ => hbusy) ?_
      rw [hpending]
      exact List.Sublist.refl _

/-- One attempt of the loop over the candidates. -/
theorem known_tryCandidate (h : Known s) (hbusy : s.phase.Busy)
    (hpending : s.phase.pending = item :: items) (f : Fallback)
    (hkept : r.created = true → r.recorded.isSome = true)
    (hposted : r.outcome = .posted ↔ r.recorded.isSome = true)
    (hcreated : r.recorded.isSome = true → r.created = true) :
    Known (s.tryCandidate c todo router items item f r) := by
  unfold Poster.tryCandidate
  dsimp only
  by_cases hrecorded : r.recorded.isSome = true
  · rw [hposted.mpr hrecorded]
    exact h.posts hbusy hpending (hcreated hrecorded) hrecorded rfl rfl rfl
      (List.Sublist.refl _)
  · rw [save_unrecorded hkept hrecorded]
    have hsame : (item :: items).Sublist s.phase.pending := by
      rw [hpending]
    have hend : Known (s.leaveUrl c todo) :=
      h.moves rfl rfl rfl (fun _ => hbusy) (List.nil_sublist _)
    split
    · next hout => exact absurd (hposted.mp hout) hrecorded
    · exact h.moves rfl rfl rfl (fun _ => hbusy) hsame
    · exact h.moves rfl rfl rfl (fun _ => hbusy) hsame
    · exact hend
    · exact hend
    · exact hend
    · exact hend
    · exact hend

/-- What a page adds is new, and each of it is new to the rest. -/
theorem takeNew_spec (minPrice : Nat) (seen : String → Bool) (page : List (Option Item)) :
    (∀ id, seen id = true → (takeNew minPrice seen page).1 id = true) ∧
      (∀ i ∈ (takeNew minPrice seen page).2,
        seen i.id = false ∧ (takeNew minPrice seen page).1 i.id = true) ∧
      ((takeNew minPrice seen page).2.map (·.id)).Nodup := by
  induction page generalizing seen with
  | nil => exact ⟨fun _ h => h, fun _ => nofun, List.nodup_nil⟩
  | cons found page ih =>
    cases found with
    | none => exact ih seen
    | some item =>
      unfold takeNew
      split
      · exact ih seen
      next hskip =>
      have hnew : seen item.id = false := by
        rw [← Bool.not_eq_true]
        exact fun hold => hskip (Or.inr hold)
      obtain ⟨hkeeps, hrest, hnodup⟩ := ih fun id => id = item.id || seen id
      dsimp only at hkeeps hrest ⊢
      refine ⟨fun id hid => hkeeps id ?_, ?_, List.nodup_cons.mpr ⟨?_, hnodup⟩⟩
      · rw [hid, Bool.or_true]
      · intro i hi
        rcases List.mem_cons.mp hi with rfl | hi
        · exact ⟨hnew, hkeeps _ (by simp)⟩
        · have := (hrest i hi).1
          rw [Bool.or_eq_false_iff] at this
          exact ⟨this.2, (hrest i hi).2⟩
      · intro hmem
        obtain ⟨i, hi, hid⟩ := List.mem_map.mp hmem
        have := (hrest i hi).1
        simp [hid] at this

/-- A page is read. -/
theorem known_takePage (h : Known s) {minPrice : Nat}
    (hphase : s.phase = .fetch c todo minPrice router items) (page : List (Option Item)) :
    Known (s.takePage c todo minPrice router items page) := by
  have hpending : s.phase.pending = items := by rw [hphase]; rfl
  have hbusy : s.phase.Busy := by rw [hphase]; trivial
  unfold Poster.takePage
  split
  · refine h.moves rfl rfl rfl (fun _ => hbusy) ?_
    rw [hpending]
    exact List.Sublist.refl _
  · obtain ⟨hkeeps, hfound, hnodup⟩ := takeNew_spec minPrice s.seen page
    have hold := h.pending
    have hdistinct := h.distinct
    rw [hpending] at hold hdistinct
    dsimp only
    refine ⟨h.blocked, h.single, fun _ o ho => hkeeps _ (h.seen hbusy o ho), ?_, ?_⟩
    · intro i hi
      rcases List.mem_append.mp hi with hi | hi
      · exact ⟨hkeeps _ (hold i hi).1, (hold i hi).2⟩
      · refine ⟨(hfound i hi).2, fun o ho heq => ?_⟩
        -- what has an offer has been seen
        have hseen := h.seen hbusy o ho
        rw [heq, (hfound i hi).1] at hseen
        cases hseen
    · show ((items ++ _).map (·.id)).Nodup
      rw [List.map_append, List.nodup_append]
      refine ⟨hdistinct, hnodup, fun a ha b hb heq => ?_⟩
      obtain ⟨i, hi, rfl⟩ := List.mem_map.mp ha
      obtain ⟨j, hj, rfl⟩ := List.mem_map.mp hb
      have hseen := (hold i hi).1
      rw [heq, (hfound j hj).1] at hseen
      cases hseen

/-- A cycle begins: the resolver reads the rows. -/
theorem known_startCycle (h : Known s) : Known s.startCycle := by
  unfold Poster.startCycle
  split
  · exact h.moves rfl rfl rfl False.elim (List.nil_sublist _)
  split
  · exact h.moves rfl rfl rfl False.elim (List.nil_sublist _)
  · exact ⟨h.blocked, h.single, fun _ o ho => (h.blocked o ho).1, fun _ => nofun, List.nodup_nil⟩

theorem known_go (h : Known s) : Known (s.go cfg) := by
  unfold Poster.go
  split
  · exact known_startCycle h
  · next c todo hphase =>
    have hbusy : s.phase.Busy := by rw [hphase]; trivial
    cases todo with
    | nil => exact h.moves rfl rfl rfl False.elim (List.nil_sublist _)
    | cons url todo =>
      rw [Poster.openUrl]
      split
      · exact h.moves rfl rfl rfl False.elim (List.nil_sublist _)
      dsimp only
      split
      · exact h.moves rfl rfl rfl (fun _ => hbusy) (List.nil_sublist _)
      · exact h.moves rfl rfl rfl (fun _ => hbusy) (List.nil_sublist _)
  · next hphase =>
    have hbusy : s.phase.Busy := by rw [hphase]; trivial
    exact h.moves rfl rfl rfl (fun _ => hbusy) (List.nil_sublist _)
  · next hphase =>
    have hbusy : s.phase.Busy := by rw [hphase]; trivial
    split
    · exact h.moves rfl rfl rfl (fun _ => hbusy) (List.nil_sublist _)
    · exact h
  · next hphase =>
    have hbusy : s.phase.Busy := by rw [hphase]; trivial
    split
    · exact h.moves rfl rfl rfl (fun _ => hbusy) (List.nil_sublist _)
    · exact h
  · exact h
  · exact h

theorem known_attempt (h : Known s) {a : Answers} (hkept : a.Kept cfg) :
    Known (s.attempt cfg a) := by
  unfold Poster.attempt
  split
  · next c todo router item items hphase =>
    have hbusy : s.phase.Busy := by rw [hphase]; trivial
    have hpending : s.phase.pending = item :: items := by rw [hphase]; rfl
    split
    · exact h
    · exact known_postItem h hbusy hpending (attemptPost_kept hkept) attemptPost_posted.1
        attemptPost_posted.2
  · next c todo router items item f hphase =>
    have hbusy : s.phase.Busy := by rw [hphase]; trivial
    have hpending : s.phase.pending = item :: items := by rw [hphase]; rfl
    split
    · exact h
    · exact known_tryCandidate h hbusy hpending _ (attemptPost_kept hkept) attemptPost_posted.1
        attemptPost_posted.2
  · exact h

/-- **Every step** of the thread keeps the rows in the know. -/
theorem known_step (h : Known s) (a : Action) (hkept : Keeps cfg s (.act a)) :
    Known (step cfg s a) := by
  cases a with
  | go => exact known_go h
  | page page =>
    show Known (s.fetched (some page))
    unfold Poster.fetched
    split
    · next hphase _ => exact known_takePage h hphase _
    · next hsome => cases hsome
    · exact h
  | lastPage =>
    show Known (s.fetched none)
    unfold Poster.fetched
    split
    · next hnone => cases hnone
    · next hphase _ =>
      have hbusy : s.phase.Busy := by rw [hphase]; trivial
      refine h.moves rfl rfl rfl (fun _ => hbusy) ?_
      rw [hphase]
      exact List.Sublist.refl _
    · exact h
  | attempt a => exact known_attempt h hkept
  | raises =>
    show Known s.fail
    unfold Poster.fail
    have leaves : ∀ c todo, s.phase.Busy → Known (s.leaveUrl c todo) := fun c todo hbusy =>
      h.moves rfl rfl rfl (fun _ => hbusy) (List.nil_sublist _)
    split
    · next hphase => exact leaves _ _ (by rw [hphase]; trivial)
    · next hphase => exact leaves _ _ (by rw [hphase]; trivial)
    · next hphase => exact leaves _ _ (by rw [hphase]; trivial)
    · next hphase => exact leaves _ _ (by rw [hphase]; trivial)
    · exact h
    · exact h
    · exact h
  | stop => exact h.moves rfl rfl rfl id (List.Sublist.refl _)
  | elapse t => exact h.moves rfl rfl rfl id (List.Sublist.refl _)

/-- The cleaner takes an item's offers and its claim to be listed together. -/
theorem known_removed (h : Known s) (id : String) (sold : Bool) : Known (s.removed id sold) := by
  unfold Poster.removed
  split
  · have hleft : ∀ o ∈ s.offers.filter (fun o => o.item ≠ id || !o.recorded),
        o ∈ s.offers ∧ o.item ≠ id := by
      intro o ho
      obtain ⟨ho, hkeep⟩ := List.mem_filter.mp ho
      have hrecorded := (h.blocked o ho).2
      refine ⟨ho, ?_⟩
      simpa [hrecorded] using hkeep
    refine ⟨?_, ?_, fun hb o ho => h.seen hb o (hleft o ho).1, ?_, h.distinct⟩
    · intro o ho
      obtain ⟨ho, hne⟩ := hleft o ho
      rw [List.lookup_cons, beq_eq_false_iff_ne.mpr hne]
      exact h.blocked o ho
    · exact List.Nodup.sublist (List.filter_sublist.map _) h.single
    · exact fun i hi => ⟨(h.pending i hi).1, fun o ho => (h.pending i hi).2 o (hleft o ho).1⟩
  · exact h

theorem known_history (h : Known s) (e : Event) (hkept : Keeps cfg s e) :
    Known (history cfg s e) := by
  cases e with
  | act a => exact known_step h a hkept
  | restart cycles => exact h.moves rfl rfl rfl False.elim (List.nil_sublist _)
  | removed id sold => exact known_removed h id sold

/-! ### Histories stay single -/

/-- **No item has two live offers**, in every state of a history in which whatever the marketplace
accepts is kept.  The rows may be of earlier times; the offers are those of the history. -/
theorem stays_single (cfg : Config) (products : List (String × DropshipProductStatus))
    (listings : List Listing) (cycles : List Cycle) (events : List Event)
    (h : Along (history cfg) (Keeps cfg) (startPoster products listings cycles) events) :
    Always (history cfg) Single (startPoster products listings cycles) events := by
  have hknown : Known (startPoster products listings cycles) :=
    ⟨fun _ => nofun, List.nodup_nil, fun _ _ => nofun, fun _ => nofun, List.nodup_nil⟩
  have halways := always_of_along (I := Known) (fun _ e h hk => known_history h e hk) hknown h
  exact halways.mono fun _ hs => hs.single

/-- A cycle over one URL. -/
def oneUrl : Cycle where
  itemDelay := seconds 3
  sourceDelay := seconds 1
  cycleInterval := seconds 300
  urls := [{}]

/-- A cycle that finds one item and posts it, with this answer. -/
def cycleOver (create : Create) : List Event :=
  [.act .go, .act .go, .act (.page [some { id := "7", price := 100 }]), .act .lastPage,
    .act (.attempt { create }), .act .go, .act .go]

/-- The item is posted, its price changes, and it is posted again. -/
theorem stays_single_repost :
    Always (history { game := "new-world" }) Single (startPoster [] [] [oneUrl, oneUrl])
      (cycleOver .created ++ [.removed "7" false] ++ cycleOver .created) :=
  stays_single _ _ _ _ _
    ⟨trivial, trivial, trivial, trivial, ⟨rfl, rfl⟩, trivial, trivial, trivial,
      trivial, trivial, trivial, trivial, ⟨rfl, rfl⟩, trivial, trivial, trivial⟩

/-- The create call of the first cycle times out after the marketplace has accepted the offer, and
the next cycle finds the item new. -/
theorem posted_twice :
    ¬ Always (history { game := "new-world" }) Single (startPoster [] [] [oneUrl, oneUrl])
      (cycleOver (.lost (.failed ⟨.timeout, "timed out", none, true, {}, ""⟩ none false "")) ++
        cycleOver .created) := by
  intro h
  have hsingle := h.last
  revert hsingle
  unfold Single
  decide

end Sda.Dropship
