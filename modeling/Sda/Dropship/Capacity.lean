/-
Sda/Dropship/Capacity.lean

How many live listings of a variant the poster makes.

The capacity of a variant is its limit less the reserve for stock.  The router of a URL counts
the listings it started from and its own posts; `Counts` says that this covers what is in the
rows, and then the room it sees is there.  The fallback after a max-offer refusal posts through
routers of its own, which the router of the URL never hears of, and nothing in it depends on the
candidate: each attempt selects like the one that was refused.

* `stays_within` — in a run whose posts meet `Fits` every variant stays within its capacity, and
  the fallback sends no variant that was refused or sent before;
* `exceeds` — one variant with two slots, a max-offer refusal, and three listings.
-/
import Sda.Dropship.Poster
import Sda.Lib.Run

namespace Sda.Dropship

/-! ### The properties -/

/-- The live listings of a variant. -/
def Poster.live (s : Poster) (cfg : Config) (v : GameVariant) : Nat :=
  liveCount cfg.variants s.variantTexts v.slug

/-- What `bounds` leaves to dropshipping. -/
def GameVariant.capacity (v : GameVariant) : Int := v.bounds.1 - v.bounds.2

/-- No variant has more listings than its capacity, unless it began with more. -/
def Within (cfg : Config) (start : Poster) (s : Poster) : Prop :=
  ∀ v ∈ cfg.variants, (s.live cfg v : Int) ≤ max (start.live cfg v : Int) v.capacity

/-- The fallback sends neither the variant that was refused nor one it has sent before. -/
def FallbackSound (cfg : Config) (s : Poster) : Action → Prop
  | .attempt a => ∀ c todo router items item f sent,
      s.phase = .fallback c todo router items item f → f.candidates ≠ [] →
      (attemptPost cfg { ctx := f.ctx } s.stopped item a).sent = some sent →
      sent ≠ f.refused ∧ sent ∉ f.tried
  | _ => True

/-- The variants that a listing of this subject will count for are among the two that the router
has checked. -/
def Checked (cfg : Config) (router : VariantRouter) (subject : Subject)
    (variantSlug regionSlug : String) : Prop :=
  ∀ v ∈ cfg.variants,
    holdsSlug cfg.variants v.slug (resolveListingVariantSlug subject router.ctx variantSlug) =
      true →
    v.type = .platform ∧ v.slug = variantSlug ∨
      v.type = .region ∧ v.slug = regionSlug ∧ regionSlug ≠ ""

/-- A listing counts only for variants that were checked, and no attempt of a fallback gets as far
as the marketplace. -/
def Fits (cfg : Config) (s : Poster) : Action → Prop
  | .attempt a =>
    (∀ c todo router item items variantSlug regionSlug,
      s.phase = .post c todo router (item :: items) →
      router.select .platform (getEligibleVariants cfg.game item.subject) cfg.game =
        some variantSlug →
      checkedRegion router item.subject = some regionSlug →
      Checked cfg router item.subject variantSlug regionSlug) ∧
    ∀ c todo router items item f, s.phase = .fallback c todo router items item f →
      s.stopped = true ∨ a.prepared = false ∨ a.built = false
  | _ => True

/-! ### Counting -/

variable {cfg : Config} {s s' : Poster} {router : VariantRouter} {v : GameVariant} {item : Item}
  {items : List Item} {c : Cycle} {todo : List TargetUrl} {r : Attempt}

/-- A fresh context counts every listing of a variant, at least once. -/
theorem liveCount_le_activeCount {variants : List GameVariant} (hv : v ∈ variants)
    (listings : List String) :
    liveCount variants listings v.slug ≤ activeCount variants listings v.slug := by
  unfold liveCount activeCount
  induction listings with
  | nil => exact Nat.le_refl 0
  | cons value listings ih =>
    rw [List.countP_cons, List.map_cons, List.sum_cons]
    split
    · next hholds =>
      have hcounted : 0 < variants.countP
          fun w => w.slug = v.slug && holdsSlug variants w.slug value := by
        apply List.countP_pos_iff.mpr
        exact ⟨v, hv, by simp [hholds]⟩
      omega
    · omega

/-- The router's entries and posts cover the listings in the rows. -/
def Counts (cfg : Config) (s : Poster) (router : VariantRouter) : Prop :=
  ∃ listings, router.ctx = buildVariantContext cfg.variants listings ∧
    ∀ v ∈ cfg.variants,
      s.live cfg v ≤ activeCount cfg.variants listings v.slug + router.posted v.type v.slug

/-- The router that a URL begins with. -/
theorem counts_fresh (cfg : Config) (s : Poster) : Counts cfg s { ctx := s.context cfg } :=
  ⟨s.variantTexts, rfl, fun _ hv => liveCount_le_activeCount hv _⟩

theorem Counts.listings (h : Counts cfg s router) (hlistings : s'.listings = s.listings) :
    Counts cfg s' router := by
  unfold Counts Poster.live Poster.variantTexts at h ⊢
  rw [hlistings]
  exact h

/-- **Room that the router sees is there.** -/
theorem Counts.room (h : Counts cfg s router) (hv : v ∈ cfg.variants)
    (hroom : router.Room v.type v.slug) : (s.live cfg v : Int) + 1 ≤ v.capacity := by
  obtain ⟨listings, hctx, hcounts⟩ := h
  obtain ⟨avail, havail, hpos⟩ := hroom
  obtain ⟨e, he, rfl⟩ := Option.map_eq_some_iff.mp havail
  rw [hctx] at he
  obtain ⟨w, hw, htype, hslug, rfl⟩ := find_buildVariantContext he
  -- the slug names one variant of its type
  have hsame : w = v := by
    apply List.inj_on_of_nodup_map cfg.unique hw hv
    rw [htype, hslug]
  subst hsame
  have hlive := hcounts w hw
  have hpos : 0 < (w.bounds.1 - w.bounds.2 : Int) -
      activeCount cfg.variants listings w.slug - router.posted w.type w.slug := hpos
  unfold GameVariant.capacity
  omega

/-- What was selected or checked has room. -/
theorem room_of_checked {subject : Subject} {variantSlug regionSlug : String}
    {allowed : Option (List String)}
    (hvariant : router.select .platform allowed cfg.game = some variantSlug)
    (hregion : checkedRegion router subject = some regionSlug)
    (hv : v.type = .platform ∧ v.slug = variantSlug ∧ variantSlug ≠ "" ∨
      v.type = .region ∧ v.slug = regionSlug ∧ regionSlug ≠ "") :
    router.Room v.type v.slug := by
  rcases hv with ⟨htype, hslug, hne⟩ | ⟨htype, hslug, hne⟩
  · rw [htype, hslug]
    exact (select_room hvariant).resolve_left fun hempty => hne hempty.1
  · rw [htype, hslug]
    unfold checkedRegion at hregion
    split at hregion
    · exact absurd (Option.some.inj hregion).symm hne
    next hset =>
    rw [not_or] at hset
    dsimp only at hregion
    split at hregion
    · cases hregion
    next hfree =>
    have hregion := Option.some.inj hregion
    subst hregion
    apply select_only hset.1
    exact fun hnone => hfree ⟨hne, hnone⟩

/-- An empty slug holds nothing. -/
theorem holdsSlug_empty (variants : List GameVariant) (value : String) :
    holdsSlug variants "" value = false := by
  unfold holdsSlug variantValueContainsSlug
  exact if_pos (Or.inr rfl)

/-- One more listing. -/
theorem live_posts {value : String} (hlistings : s'.listings = ⟨item.id, value⟩ :: s.listings)
    (v : GameVariant) : s'.live cfg v =
      s.live cfg v + if holdsSlug cfg.variants v.slug value = true then 1 else 0 := by
  unfold Poster.live Poster.variantTexts liveCount
  rw [hlistings, List.map_cons, List.countP_cons]

/-- A post through the router of the URL, checked as `Checked` says. -/
theorem Counts.posts (h : Counts cfg s router) {value variantSlug regionSlug : String}
    (hchecked : ∀ v ∈ cfg.variants, holdsSlug cfg.variants v.slug value = true →
      v.type = .platform ∧ v.slug = variantSlug ∨
        v.type = .region ∧ v.slug = regionSlug ∧ regionSlug ≠ "")
    (hlistings : s'.listings = ⟨item.id, value⟩ :: s.listings) :
    Counts cfg s' (if regionSlug = "" then router.recordPost .platform variantSlug
      else (router.recordPost .platform variantSlug).recordPost .region regionSlug) := by
  obtain ⟨listings, hctx, hcounts⟩ := h
  refine ⟨listings, ?_, fun v hv => ?_⟩
  · split <;> exact hctx
  have hold := hcounts v hv
  rw [live_posts hlistings]
  -- both counters only grow, and that of a variant that is held has grown
  split
  · next hholds =>
    have hgrown : router.posted v.type v.slug + 1 ≤
        (if regionSlug = "" then router.recordPost .platform variantSlug
          else (router.recordPost .platform variantSlug).recordPost .region regionSlug).posted
            v.type v.slug := by
      rcases hchecked v hv hholds with ⟨htype, hslug⟩ | ⟨htype, hslug, hne⟩
      · rw [htype, hslug]
        split <;> simp [VariantRouter.recordPost]
      · rw [if_neg hne, htype, hslug]
        simp [VariantRouter.recordPost]
    omega
  · have hmono : router.posted v.type v.slug ≤
        (if regionSlug = "" then router.recordPost .platform variantSlug
          else (router.recordPost .platform variantSlug).recordPost .region regionSlug).posted
            v.type v.slug := by
      split
      · unfold VariantRouter.recordPost
        dsimp only
        split <;> omega
      · unfold VariantRouter.recordPost
        dsimp only
        split <;> split <;> omega
    omega

/-! ### Every step -/

/-- The router of the URL that is worked on. -/
def Phase.urlRouter : Phase → Option VariantRouter
  | .cycle | .urls .. | .ended => none
  | .fetch _ _ _ router _ | .post _ _ router _ | .fallback _ _ router _ _ _ => some router

/-- Within capacity, and the router of the URL knows what there is. -/
structure Tallied (cfg : Config) (start s : Poster) : Prop where
  within : Within cfg start s
  counts : ∀ router, s.phase.urlRouter = some router → Counts cfg s router

variable {start : Poster}

/-- Nothing is posted, and the router stays or is left. -/
theorem Tallied.moves (h : Tallied cfg start s) (hlistings : s'.listings = s.listings)
    (hrouter : ∀ router, s'.phase.urlRouter = some router → s.phase.urlRouter = some router) :
    Tallied cfg start s' := by
  refine ⟨fun v hv => ?_, fun router hr => (h.counts router (hrouter router hr)).listings hlistings⟩
  have hlive : s'.live cfg v = s.live cfg v := by
    unfold Poster.live Poster.variantTexts
    rw [hlistings]
  rw [hlive]
  exact h.within v hv

/-- A post through the router of the URL keeps every variant within its capacity. -/
theorem Tallied.posts (h : Tallied cfg start s) (hrouter : s.phase.urlRouter = some router)
    {value variantSlug regionSlug : String} {allowed : Option (List String)}
    (hvariant : router.select .platform allowed cfg.game = some variantSlug)
    (hregion : checkedRegion router item.subject = some regionSlug)
    (hchecked : ∀ v ∈ cfg.variants, holdsSlug cfg.variants v.slug value = true →
      v.type = .platform ∧ v.slug = variantSlug ∨
        v.type = .region ∧ v.slug = regionSlug ∧ regionSlug ≠ "")
    (hlistings : s'.listings = ⟨item.id, value⟩ :: s.listings)
    (hafter : ∀ router', s'.phase.urlRouter = some router' → router' =
      if regionSlug = "" then router.recordPost .platform variantSlug
      else (router.recordPost .platform variantSlug).recordPost .region regionSlug) :
    Tallied cfg start s' := by
  have hcounts := h.counts router hrouter
  constructor
  · intro v hv
    rw [live_posts hlistings]
    have hwithin := h.within v hv
    split
    · next hholds =>
      have hne : v.slug ≠ "" := by
        intro hempty
        rw [hempty, holdsSlug_empty] at hholds
        cases hholds
      have hroom : router.Room v.type v.slug := by
        apply room_of_checked hvariant hregion
        rcases hchecked v hv hholds with ⟨htype, hslug⟩ | hregion
        · exact Or.inl ⟨htype, hslug, hslug ▸ hne⟩
        · exact Or.inr hregion
      have := hcounts.room hv hroom
      push_cast
      omega
    · push_cast
      omega
  · intro router' hr
    rw [hafter router' hr]
    exact hcounts.posts hchecked hlistings

/-- What the loop over the items does with the listings. -/
theorem listings_postItem (r : Attempt) : (s.postItem cfg c todo item items r).listings =
    match r.recorded with
    | some variant => ⟨item.id, variant⟩ :: s.listings
    | none => s.listings := by
  have handled : ∀ (s : Poster) e, (s.handle c todo r.router items e).listings = s.listings := by
    intro s e
    unfold Poster.handle
    dsimp only
    split <;> rfl
  unfold Poster.postItem
  dsimp only
  split
  · rfl
  · rfl
  · rfl
  · rfl
  · exact handled _ _
  · exact handled _ _
  · exact handled _ _
  · rfl

/-- Whatever comes of an item, the URL goes on with the router of its attempt. -/
theorem urlRouter_postItem (r : Attempt) {router' : VariantRouter}
    (h : (s.postItem cfg c todo item items r).phase.urlRouter = some router') :
    router' = r.router := by
  have handled : ∀ (s : Poster) e,
      (s.handle c todo r.router items e).phase.urlRouter = some router' → router' = r.router := by
    intro s e he
    unfold Poster.handle at he
    dsimp only at he
    split at he
    · exact (Option.some.inj he).symm
    · cases he
    · cases he
  unfold Poster.postItem at h
  dsimp only at h
  split at h
  · exact (Option.some.inj h).symm
  · exact (Option.some.inj h).symm
  · exact (Option.some.inj h).symm
  · cases h
  · exact handled _ _ h
  · exact handled _ _ h
  · exact handled _ _ h
  · exact (Option.some.inj h).symm

/-- One attempt of the loop over the items. -/
theorem tallied_postItem (h : Tallied cfg start s)
    (hphase : s.phase = .post c todo router (item :: items)) {a : Answers}
    (hfits : Fits cfg s (.attempt a)) :
    Tallied cfg start
      (s.postItem cfg c todo item items (attemptPost cfg router false item a)) := by
  have hrouter : s.phase.urlRouter = some router := by
    rw [hphase]
    rfl
  have hlistings : (s.postItem cfg c todo item items
      (attemptPost cfg router false item a)).listings = _ := listings_postItem _
  cases hrecorded : (attemptPost cfg router false item a).recorded with
  | none =>
    rw [hrecorded] at hlistings
    refine h.moves hlistings fun router' hr => ?_
    rw [urlRouter_postItem _ hr, attemptPost_router hrecorded, hrouter]
  | some value =>
    rw [hrecorded] at hlistings
    obtain ⟨variantSlug, regionSlug, hvariant, hregion, hvalue, hnext⟩ :=
      attemptPost_recorded hrecorded
    have hchecked := hfits.1 c todo router item items variantSlug regionSlug hphase hvariant hregion
    unfold Checked at hchecked
    rw [← hvalue] at hchecked
    apply h.posts hrouter hvariant hregion hchecked hlistings
    intro router' hr
    rw [urlRouter_postItem _ hr, hnext]

/-- An attempt of a fallback that does not get to the marketplace. -/
theorem tallied_tryCandidate (h : Tallied cfg start s) (hrouter : s.phase.urlRouter = some router)
    (f : Fallback) (hrecorded : r.recorded = none) :
    Tallied cfg start (s.tryCandidate c todo router items item f r) := by
  have hlistings : (s.save item r).listings = s.listings := by
    unfold Poster.save
    dsimp only
    rw [hrecorded]
  unfold Poster.tryCandidate
  dsimp only
  split
  · exact h.moves hlistings fun _ hr => hr ▸ hrouter
  · exact h.moves hlistings fun _ hr => hr ▸ hrouter
  · exact h.moves hlistings fun _ hr => hr ▸ hrouter
  · exact h.moves hlistings fun _ => nofun
  · exact h.moves hlistings fun _ => nofun
  · exact h.moves hlistings fun _ => nofun
  · exact h.moves hlistings fun _ => nofun
  · exact h.moves hlistings fun _ => nofun

/-- Stopped, or without a payload, an attempt sends nothing. -/
theorem unsent_of_short {stopped : Bool} {a : Answers}
    (h : stopped = true ∨ a.prepared = false ∨ a.built = false) :
    (attemptPost cfg router stopped item a).Unsent router := by
  rcases attemptPost_cases cfg router stopped item a with
    hunsent | ⟨_, _, _, _, hprepared, hbuilt, hstop, _⟩
  · exact hunsent
  · rcases h with h | h | h
    · rw [hstop] at h
      cases h
    · rw [hprepared] at h
      cases h
    · rw [hbuilt] at h
      cases h

theorem tallied_go (h : Tallied cfg start s) : Tallied cfg start (s.go cfg) := by
  unfold Poster.go
  split
  · unfold Poster.startCycle
    split
    · exact h.moves rfl fun _ => nofun
    split
    · exact h.moves rfl fun _ => nofun
    · exact h.moves rfl fun _ => nofun
  · next c todo _ =>
    cases todo with
    | nil => exact h.moves rfl fun _ => nofun
    | cons url todo =>
      rw [Poster.openUrl]
      split
      · exact h.moves rfl fun _ => nofun
      dsimp only
      split
      · exact h.moves rfl fun _ => nofun
      · -- the router of the URL starts from the rows
        refine ⟨h.within, fun router hr => ?_⟩
        obtain rfl := Option.some.inj hr
        exact (counts_fresh cfg s).listings rfl
  · exact h.moves rfl fun _ => nofun
  · split
    · exact h.moves rfl fun _ => nofun
    · exact h
  · split
    · exact h.moves rfl fun _ => nofun
    · exact h
  · exact h
  · exact h

theorem tallied_fetched (h : Tallied cfg start s) (page : Option (List (Option Item))) :
    Tallied cfg start (s.fetched page) := by
  unfold Poster.fetched
  split
  · next hphase =>
    unfold Poster.takePage
    split
    · refine h.moves rfl fun _ hr => ?_
      rw [hphase]
      exact hr
    · refine h.moves rfl fun _ hr => ?_
      rw [hphase]
      exact hr
  · next hphase =>
    refine h.moves rfl fun _ hr => ?_
    rw [hphase]
    exact hr
  · exact h

theorem tallied_attempt (h : Tallied cfg start s) {a : Answers} (hfits : Fits cfg s (.attempt a)) :
    Tallied cfg start (s.attempt cfg a) := by
  unfold Poster.attempt
  split
  · next hphase =>
    split
    · exact h
    · exact tallied_postItem h hphase hfits
  · next c todo router items item f hphase =>
    split
    · exact h
    · have hrouter : s.phase.urlRouter = some router := by
        rw [hphase]
        rfl
      have hshort := hfits.2 c todo router items item f hphase
      exact tallied_tryCandidate h hrouter f (unsent_of_short hshort).recorded
  · exact h

/-- **Every step** that fits keeps the tally. -/
theorem tallied_step (h : Tallied cfg start s) (a : Action) (hfits : Fits cfg s a) :
    Tallied cfg start (step cfg s a) := by
  cases a with
  | go => exact tallied_go h
  | page page => exact tallied_fetched h _
  | lastPage => exact tallied_fetched h _
  | attempt a => exact tallied_attempt h hfits
  | raises =>
    show Tallied cfg start s.fail
    unfold Poster.fail
    split
    · exact h.moves rfl fun _ => nofun
    · exact h.moves rfl fun _ => nofun
    · exact h.moves rfl fun _ => nofun
    · exact h.moves rfl fun _ => nofun
    · exact h
    · exact h
    · exact h
  | stop => exact h.moves rfl fun _ hr => hr
  | elapse t => exact h.moves rfl fun _ hr => hr

/-- A fallback that sends nothing sends nothing twice. -/
theorem fallbackSound_of_fits (a : Action) (hfits : Fits cfg s a) : FallbackSound cfg s a := by
  cases a with
  | attempt a =>
    intro c todo router items item f sent hphase _ hsent
    have hshort := hfits.2 c todo router items item f hphase
    rw [(unsent_of_short hshort).sent] at hsent
    cases hsent
  | go => trivial
  | page => trivial
  | lastPage => trivial
  | raises => trivial
  | stop => trivial
  | elapse => trivial

/-! ### Runs -/

/-- **Every variant stays within its capacity**, and the fallback is sound, in a run of steps that
fit. -/
theorem stays_within (cfg : Config) (products : List (String × Sync.DropshipProductStatus))
    (listings : List Listing) (cycles : List Cycle) (actions : List Action)
    (h : Along (step cfg) (Fits cfg) (startPoster products listings cycles) actions) :
    Always (step cfg) (Within cfg (startPoster products listings cycles))
        (startPoster products listings cycles) actions ∧
      Along (step cfg) (FallbackSound cfg) (startPoster products listings cycles) actions := by
  have hstart : Tallied cfg (startPoster products listings cycles)
      (startPoster products listings cycles) :=
    ⟨fun _ _ => le_max_left _ _, fun _ => nofun⟩
  have hstep : ∀ s a, Tallied cfg (startPoster products listings cycles) s → Fits cfg s a →
      Tallied cfg (startPoster products listings cycles) (step cfg s a) :=
    fun _ a hs hf => tallied_step hs a hf
  constructor
  · exact (always_of_along hstep hstart h).mono fun _ hs => hs.within
  · exact along_of_along hstep (fun _ a _ hf => fallbackSound_of_fits a hf) hstart h

/-- One platform, with two slots. -/
def twoSlots : Config where
  game := "fortnite"
  variants := [{ type := .platform, slug := "pc", limits := some (2, 0) }]

/-- A cycle over one URL. -/
def wideCycle : Cycle where
  itemDelay := 0
  sourceDelay := 0
  cycleInterval := 0
  urls := [{}]

def itemsOnSale : List (Option Item) :=
  ["a", "b", "c"].map fun id => some { id, price := 100 }

/-- An item is posted in one of the slots. -/
theorem stays_within_post :
    Always (step twoSlots) (Within twoSlots (startPoster [] [] [wideCycle]))
        (startPoster [] [] [wideCycle]) [.go, .go, .page itemsOnSale, .lastPage, .attempt {}] ∧
      Along (step twoSlots) (FallbackSound twoSlots) (startPoster [] [] [wideCycle])
        [.go, .go, .page itemsOnSale, .lastPage, .attempt {}] := by
  refine stays_within _ _ _ _ _ ⟨trivial, trivial, trivial, trivial, ⟨?_, ?_⟩, trivial⟩
  · intro c todo router item items variantSlug regionSlug hphase hvariant _ v hv _
    obtain ⟨rfl, rfl, rfl, hitems⟩ := Phase.post.inj hphase
    obtain ⟨rfl, rfl⟩ := List.cons.inj hitems
    obtain rfl := List.mem_singleton.mp hv
    have hpc : some "pc" = some variantSlug := hvariant
    exact Or.inl ⟨rfl, Option.some.inj hpc⟩
  · intro c todo router items item f hphase
    cases hphase

/-- The marketplace refuses the first item for its own cap, and accepts it on the second try. -/
def refusedOnce : List Action :=
  [.go, .go, .page itemsOnSale, .lastPage,
    .attempt { create := .rejected (.failed
      ⟨.validation, "", some 400, false,
        { messages := ["Maximum of 300 active offers is allowed."] }, ""⟩ (some 400) false "") },
    .attempt {}, .attempt {}, .attempt {}]

theorem exceeds :
    ¬ Always (step twoSlots) (Within twoSlots (startPoster [] [] [wideCycle]))
        (startPoster [] [] [wideCycle]) refusedOnce ∧
      ¬ Along (step twoSlots) (FallbackSound twoSlots) (startPoster [] [] [wideCycle])
        refusedOnce := by
  constructor
  · intro h
    have hlast := h.last _ List.mem_cons_self
    revert hlast
    decide
  · intro h
    have hfallback := h.2.2.2.2.2.1 _ _ _ _ _ _ "pc" rfl (by decide) (by decide)
    exact hfallback.1 rfl

end Sda.Dropship
