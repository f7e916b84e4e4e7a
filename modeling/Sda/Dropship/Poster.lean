/-
Sda/Dropship/Poster.lean

The poster thread of one configuration (services/dropship/poster.py, resolvers/dropship.py).

`attemptPost` is `_attempt_post` on the answers of everyone it calls; `step` takes the thread
from one statement of `poster_loop` and `_process_target_url` to the next.  The state keeps the
rows, the offers at the marketplace, the thread's own variables and the time that has passed.
-/
import Sda.Dropship.Backoff
import Sda.Dropship.Variants
import Sda.Sync.Models

namespace Sda.Dropship

open Sync (DropshipProductStatus)

/-! ### What the thread reads -/

/-- What is read of a source item that has an id. -/
structure Item where
  id : String
  price : Nat
  gameId : Option Nat := none
  /-- What the pipeline prepares of it. -/
  subject : Subject := {}
  deriving DecidableEq, Repr

structure TargetUrl where
  minPrice : Nat := 0
  deriving DecidableEq, Repr

/-- What a cycle reads of the configuration: its delays, in microseconds, and its enabled
target URLs. -/
structure Cycle where
  itemDelay : Nat
  sourceDelay : Nat
  cycleInterval : Nat
  urls : List TargetUrl
  deriving DecidableEq, Repr

/-- What is fixed for a configuration. -/
structure Config where
  game : String
  /-- The source is Eldorado. -/
  fromEldorado : Bool := false
  hasCategory : Bool := true
  variants : List GameVariant := []
  /-- The unique constraint of `GameVariant`. -/
  unique : (variants.map fun v => (v.type, v.slug)).Nodup := by decide

/-- How a create call fails. -/
inductive Failure
  | raised (e : PyError)
  /-- A result that is not ok; `text` is the message the poster makes of it. -/
  | failed (e : ErrorDetail) (status : Option Nat) (maintenance : Bool) (text : String)
  deriving DecidableEq, Repr

/-- What a create call comes to, at the marketplace and for the caller. -/
inductive Create
  | created
  /-- The marketplace accepts the offer, and the call fails. -/
  | lost (failure : Failure)
  | rejected (failure : Failure)
  deriving DecidableEq, Repr

/-- The answers one `_attempt_post` gets. -/
structure Answers where
  /-- `adapter.prepare` and `adapter.build` succeed. -/
  prepared : Bool := true
  built : Bool := true
  create : Create := .created
  /-- A step after the create call raises: reading the listing id, the publication, reading title
  and price, the normalizer, the transaction. -/
  raises : Bool := false
  deriving DecidableEq, Repr

/-! ### `_attempt_post` -/

/-- What `_attempt_post` returns (`posted`, `skipped`) or raises. -/
inductive Outcome
  | posted | skipped
  | maxOffer (variantSlug : String)
  | storeFull | rateLimit
  | validation (text : String)
  | server | failed
  deriving DecidableEq, Repr

/-- One `_attempt_post`: how it ends, the variant of its create call, whether the marketplace has
a new offer, the `variant` of the new `Listing`, and the router after it. -/
structure Attempt where
  outcome : Outcome
  sent : Option String := none
  created : Bool := false
  recorded : Option String := none
  router : VariantRouter

/-- **`is_max_offer_error`** of a failed result. -/
def isMaxOfferError (e : ErrorDetail) : Bool :=
  e.details.messages.any fun m => containsText "active offers is allowed" (lowerText m)

/-- What is raised for a failed create call. -/
def Failure.outcome (game variantSlug : String) : Failure → Outcome
  | .raised _ => .failed
  | .failed e status maintenance text =>
    if isMaxOfferError e then
      -- on a platform with variants the next one is tried, elsewhere the store is full
      if (platformPriority game).isSome then .maxOffer variantSlug else .storeFull
    else
      match classifyApiError maintenance (.failure e status : ApiResult Unit) with
      | .rateLimit => .rateLimit
      | .validation => .validation text
      | .server => .server
      | .success | .auth | .notFound | .maintenance | .unknown => .failed

/-- The create call and all that follows it. -/
def createOffer (cfg : Config) (router : VariantRouter) (item : Item)
    (variantSlug regionSlug : String) (a : Answers) : Attempt :=
  match a.create with
  | .rejected failure =>
    { outcome := failure.outcome cfg.game variantSlug, sent := some variantSlug, router }
  | .lost failure =>
    { outcome := failure.outcome cfg.game variantSlug, sent := some variantSlug,
      created := true, router }
  | .created =>
    if a.raises ∨ cfg.hasCategory = false then
      { outcome := .failed, sent := some variantSlug, created := true, router }
    else
      let counted := router.recordPost .platform variantSlug
      { outcome := .posted
        sent := some variantSlug
        created := true
        recorded := some (resolveListingVariantSlug item.subject router.ctx variantSlug)
        router := if regionSlug = "" then counted else counted.recordPost .region regionSlug }

/-- The region of the account, `''` where none is checked; `none` if the region is full. -/
def checkedRegion (router : VariantRouter) (subject : Subject) : Option String :=
  if router.ctx .region = [] ∨ subject.regionPhrase = "" then some ""
  else
    let region := router.selectFixed .region subject.regionPhrase
    if region ≠ "" ∧ router.select .region (some [region]) = none then none else some region

/-- `SAB_GAME_ID`. -/
def sabGameId : Nat := 259

/-- An item of another game in a Steal-A-Brainrot configuration. -/
def Item.foreign (item : Item) (cfg : Config) : Bool :=
  cfg.game = "steal-a-brainrot" && cfg.fromEldorado &&
    item.gameId.isSome && item.gameId ≠ some sabGameId

/-- **`_attempt_post`**; the context it gets is that of its router. -/
def attemptPost (cfg : Config) (router : VariantRouter) (stopped : Bool) (item : Item)
    (a : Answers) : Attempt :=
  if item.foreign cfg ∨ item.price = 0 then { outcome := .skipped, router }
  else if router.select .platform none cfg.game = none then { outcome := .storeFull, router }
  else if a.prepared = false then { outcome := .failed, router }
  else
    match router.select .platform (getEligibleVariants cfg.game item.subject) cfg.game,
        checkedRegion router item.subject with
    | none, _ | _, none => { outcome := .skipped, router }
    | some variantSlug, some regionSlug =>
      if a.built = false then { outcome := .failed, router }
      -- the pipeline can take long, so the stop is checked again
      else if stopped then { outcome := .skipped, router }
      else createOffer cfg router item variantSlug regionSlug a

/-! ### What an attempt comes to -/

section Cases

variable {cfg : Config} {router : VariantRouter} {stopped : Bool} {item : Item} {a : Answers}

/-- No call reached the marketplace. -/
structure Attempt.Unsent (r : Attempt) (router : VariantRouter) : Prop where
  sent : r.sent = none
  created : r.created = false
  recorded : r.recorded = none
  router : r.router = router
  outcome : r.outcome = .skipped ∨ r.outcome = .storeFull ∨ r.outcome = .failed

/-- An attempt ends before the create call, or is that call with what was chosen for it. -/
theorem attemptPost_cases (cfg : Config) (router : VariantRouter) (stopped : Bool) (item : Item)
    (a : Answers) :
    (attemptPost cfg router stopped item a).Unsent router ∨
      ∃ variantSlug regionSlug,
        router.select .platform (getEligibleVariants cfg.game item.subject) cfg.game =
          some variantSlug ∧
        checkedRegion router item.subject = some regionSlug ∧
        a.prepared = true ∧ a.built = true ∧ stopped = false ∧
        attemptPost cfg router stopped item a =
          createOffer cfg router item variantSlug regionSlug a := by
  have skipped : Attempt.Unsent { outcome := .skipped, router } router :=
    ⟨rfl, rfl, rfl, rfl, Or.inl rfl⟩
  have failed : Attempt.Unsent { outcome := .failed, router } router :=
    ⟨rfl, rfl, rfl, rfl, Or.inr (Or.inr rfl)⟩
  unfold attemptPost
  split
  · exact Or.inl skipped
  split
  · exact Or.inl ⟨rfl, rfl, rfl, rfl, Or.inr (Or.inl rfl)⟩
  split
  · exact Or.inl failed
  next hprepared =>
  split
  · exact Or.inl skipped
  · exact Or.inl skipped
  next variantSlug regionSlug hvariant hregion =>
  split
  · exact Or.inl failed
  next hbuilt =>
  split
  · exact Or.inl skipped
  next hstop =>
  rw [Bool.not_eq_false] at hprepared hbuilt
  rw [Bool.not_eq_true] at hstop
  exact Or.inr ⟨variantSlug, regionSlug, hvariant, hregion, hprepared, hbuilt, hstop, rfl⟩

/-- A failure is never taken for a success. -/
theorem failure_outcome_ne (game variantSlug : String) (failure : Failure) :
    failure.outcome game variantSlug ≠ .posted := by
  unfold Failure.outcome
  split
  · exact nofun
  split
  · split <;> exact nofun
  split <;> exact nofun

/-- Whatever is posted is at the marketplace and in a row, and a row is written for nothing
else. -/
theorem attemptPost_posted :
    ((attemptPost cfg router stopped item a).outcome = .posted ↔
        (attemptPost cfg router stopped item a).recorded.isSome = true) ∧
      ((attemptPost cfg router stopped item a).recorded.isSome = true →
        (attemptPost cfg router stopped item a).created = true) := by
  rcases attemptPost_cases cfg router stopped item a with
    hunsent | ⟨v, region, _, _, _, _, _, hsent⟩
  · rw [hunsent.recorded]
    refine ⟨iff_of_false ?_ nofun, nofun⟩
    rcases hunsent.outcome with h | h | h <;>
    · rw [h]
      exact nofun
  · rw [hsent]
    unfold createOffer
    split
    · exact ⟨iff_of_false (failure_outcome_ne _ _ _) nofun, nofun⟩
    · exact ⟨iff_of_false (failure_outcome_ne _ _ _) nofun, nofun⟩
    split
    · exact ⟨iff_of_false nofun nofun, nofun⟩
    · exact ⟨iff_of_true rfl rfl, fun _ => rfl⟩

/-- What a row says, and what the router counts for it. -/
theorem attemptPost_recorded {value : String}
    (h : (attemptPost cfg router stopped item a).recorded = some value) :
    ∃ variantSlug regionSlug,
      router.select .platform (getEligibleVariants cfg.game item.subject) cfg.game =
        some variantSlug ∧
      checkedRegion router item.subject = some regionSlug ∧
      value = resolveListingVariantSlug item.subject router.ctx variantSlug ∧
      (attemptPost cfg router stopped item a).router =
        if regionSlug = "" then router.recordPost .platform variantSlug
        else (router.recordPost .platform variantSlug).recordPost .region regionSlug := by
  rcases attemptPost_cases cfg router stopped item a with
    hunsent | ⟨variantSlug, regionSlug, hvariant, hregion, _, _, _, hsent⟩
  · rw [hunsent.recorded] at h
    cases h
  · rw [hsent] at h ⊢
    refine ⟨variantSlug, regionSlug, hvariant, hregion, ?_⟩
    unfold createOffer at h ⊢
    split
    · next hcreate =>
      rw [hcreate] at h
      cases h
    · next hcreate =>
      rw [hcreate] at h
      cases h
    · next hcreate =>
      rw [hcreate] at h
      dsimp only at h
      split
      · next hraises =>
        rw [if_pos hraises] at h
        cases h
      · next hfine =>
        rw [if_neg hfine] at h
        exact ⟨(Option.some.inj h).symm, rfl⟩

/-- Without a row the router counts nothing. -/
theorem attemptPost_router (h : (attemptPost cfg router stopped item a).recorded = none) :
    (attemptPost cfg router stopped item a).router = router := by
  rcases attemptPost_cases cfg router stopped item a with
    hunsent | ⟨variantSlug, regionSlug, _, _, _, _, _, hsent⟩
  · exact hunsent.router
  · rw [hsent] at h ⊢
    unfold createOffer at h ⊢
    split
    · rfl
    · rfl
    · next hcreate =>
      rw [hcreate] at h
      dsimp only at h
      split
      · rfl
      · next hfine =>
        rw [if_neg hfine] at h
        cases h

end Cases

/-! ### The thread -/

/-- The fallback of one item: the variants it goes through, the one that was refused, and those it
has sent. -/
structure Fallback where
  ctx : Context
  candidates : List String
  refused : String
  tried : List String := []

/-- Where the thread stands. -/
inductive Phase
  /-- At the head of the `while` of `poster_loop`. -/
  | cycle
  /-- At the head of its loop over the URLs. -/
  | urls (c : Cycle) (todo : List TargetUrl)
  /-- Before the next page of the source. -/
  | fetch (c : Cycle) (todo : List TargetUrl) (minPrice : Nat) (router : VariantRouter)
      (items : List Item)
  /-- At the head of the loop over the new items. -/
  | post (c : Cycle) (todo : List TargetUrl) (router : VariantRouter) (items : List Item)
  /-- At the head of the loop over the candidates. -/
  | fallback (c : Cycle) (todo : List TargetUrl) (router : VariantRouter) (items : List Item)
      (item : Item) (f : Fallback)
  | ended

/-- A live `Listing` of the configuration's store and game. -/
structure Listing where
  item : String
  variant : String
  deriving DecidableEq, Repr

/-- A live offer the marketplace has accepted from the poster. -/
structure Offer where
  item : String
  /-- A `Listing` knows of it. -/
  recorded : Bool
  deriving DecidableEq, Repr

structure Poster extends Pace where
  /-- The products of the source account by their ids, the last write of each first. -/
  products : List (String × DropshipProductStatus) := []
  listings : List Listing := []
  offers : List Offer := []
  /-- `_listed_ids` of the resolver. -/
  seen : String → Bool := fun _ => false
  /-- What the cycles to come read from the configuration row; after the last it is disabled. -/
  upcoming : List Cycle
  phase : Phase := .cycle

/-- A poster thread that begins on these rows. -/
def startPoster (products : List (String × DropshipProductStatus)) (listings : List Listing)
    (cycles : List Cycle) : Poster where
  products
  listings
  upcoming := cycles

/-- What happens next. -/
inductive Action
  /-- The thread runs up to its next call. -/
  | go
  /-- The source answers with a page; an item may lack an id. -/
  | page (items : List (Option Item))
  | lastPage
  | attempt (a : Answers)
  /-- Something raises that `_process_target_url` does not handle. -/
  | raises
  /-- The stop event is set. -/
  | stop
  /-- Time passes. -/
  | elapse (t : Nat)

/-- The variants of the live listings. -/
def Poster.variantTexts (s : Poster) : List String := s.listings.map (·.variant)

def Poster.context (s : Poster) (cfg : Config) : Context :=
  buildVariantContext cfg.variants s.variantTexts

/-- `stop_event.wait(timeout)`. -/
def Poster.waits (s : Poster) (timeout : Nat) : Poster :=
  { s with toPace := s.toPace.wait timeout }

/-- The thread waits, and goes on there. -/
def Poster.goOn (s : Poster) (timeout : Nat) (phase : Phase) : Poster :=
  { s.waits timeout with phase }

/-- `_process_target_url` ends, in whatever way. -/
def Poster.leaveUrl (s : Poster) (c : Cycle) (todo : List TargetUrl) : Poster :=
  s.goOn c.sourceDelay (.urls c todo)

/-- The end of the body of the loop over the items. -/
def Poster.nextItem (s : Poster) (c : Cycle) (todo : List TargetUrl) (router : VariantRouter)
    (items : List Item) : Poster :=
  s.goOn c.itemDelay (.post c todo router items)

/-- The tracker is told something. -/
def Poster.record (s : Poster) (t : ErrorTracker) : Poster :=
  { s with toPace := s.toPace.record t }

/-- An error is recorded, and the handler waits or raises.  A `TemporaryPauseRequired` ends in the
`except Exception` of `poster_loop`. -/
def Poster.handle (s : Poster) (c : Cycle) (todo : List TargetUrl) (router : VariantRouter)
    (items : List Item) (h : ErrorTracker × Handled) : Poster :=
  let s := s.record h.1
  match h.2 with
  | .waits delay => (s.waits delay).nextItem c todo router items
  | .pause _ => { s with phase := .ended }
  | .temporaryPause _ _ => s.leaveUrl c todo

/-- What an attempt leaves in the rows and at the marketplace. -/
def Poster.save (s : Poster) (item : Item) (r : Attempt) : Poster :=
  { s with
    offers := if r.created then ⟨item.id, r.recorded.isSome⟩ :: s.offers else s.offers
    products := if r.recorded.isSome then (item.id, .listed) :: s.products else s.products
    listings := match r.recorded with
      | some variant => ⟨item.id, variant⟩ :: s.listings
      | none => s.listings }

/-- The variants the fallback goes through. -/
def fallbackCandidates (game refused : String) : List String :=
  ((platformPriority game).getD []).flatten.filter fun v => refused = "" || v ≠ refused

/-- The body of the loop over the items, from `_attempt_post` on. -/
def Poster.postItem (s : Poster) (cfg : Config) (c : Cycle) (todo : List TargetUrl)
    (item : Item) (items : List Item) (r : Attempt) : Poster :=
  let s := s.save item r
  match r.outcome with
  | .posted => (s.record s.tracker.onSuccess).nextItem c todo r.router items
  | .skipped | .failed => s.nextItem c todo r.router items
  | .storeFull => s.leaveUrl c todo
  | .rateLimit => s.handle c todo r.router items (s.tracker.onRateLimit none)
  | .validation text => s.handle c todo r.router items (s.tracker.onValidationError s.clock text)
  | .server => s.handle c todo r.router items s.tracker.onServerError
  | .maxOffer refused =>
    let f : Fallback :=
      { ctx := s.context cfg, candidates := fallbackCandidates cfg.game refused, refused }
    { s with phase := .fallback c todo r.router items item f }

/-- The body of the loop over the candidates; the candidate itself plays no part in it. -/
def Poster.tryCandidate (s : Poster) (c : Cycle) (todo : List TargetUrl) (router : VariantRouter)
    (items : List Item) (item : Item) (f : Fallback) (r : Attempt) : Poster :=
  let s := s.save item r
  match r.outcome with
  -- the outer router is not told
  | .posted => (s.record s.tracker.onSuccess).nextItem c todo router items
  | .skipped | .maxOffer _ =>
    let f := { f with candidates := f.candidates.tail, tried := r.sent.toList ++ f.tried }
    { s with phase := .fallback c todo router items item f }
  | .storeFull | .rateLimit | .validation _ | .server | .failed => s.leaveUrl c todo

/-- The items of a page that go on to be posted, and the resolver after it. -/
def takeNew (minPrice : Nat) (seen : String → Bool) :
    List (Option Item) → (String → Bool) × List Item
  | [] => (seen, [])
  | none :: page => takeNew minPrice seen page
  | some item :: page =>
    if 0 < minPrice ∧ item.price < minPrice ∨ seen item.id = true then takeNew minPrice seen page
    else
      let rest := takeNew minPrice (fun id => id = item.id || seen id) page
      (rest.1, item :: rest.2)

/-- A product that the resolver blocks. -/
def blocks (status : Option DropshipProductStatus) : Bool :=
  status = some .listed || status = some .sold

/-- A cycle begins, and **`DropshipResolver`** is built for it. -/
def Poster.started (s : Poster) (c : Cycle) (rest : List Cycle) : Poster :=
  { s with
    upcoming := rest
    seen := fun id => blocks (s.products.lookup id)
    phase := .urls c c.urls }

/-- The head of the `while`. -/
def Poster.startCycle (s : Poster) : Poster :=
  match s.upcoming with
  | [] => { s with phase := .ended }
  | c :: rest => if s.stopped then { s with phase := .ended } else s.started c rest

/-- The head of the loop over the URLs, up to the first page. -/
def Poster.openUrl (s : Poster) (cfg : Config) (c : Cycle) : List TargetUrl → Poster
  | [] => s.goOn c.cycleInterval .cycle
  | url :: todo =>
    if s.stopped then s.goOn c.cycleInterval .cycle
    else
      let router : VariantRouter := { ctx := s.context cfg }
      if router.select .platform none cfg.game = none then s.leaveUrl c todo
      else { s with phase := .fetch c todo url.minPrice router [] }

/-- A page of the source. -/
def Poster.takePage (s : Poster) (c : Cycle) (todo : List TargetUrl) (minPrice : Nat)
    (router : VariantRouter) (items : List Item) (page : List (Option Item)) : Poster :=
  if s.stopped then { s with phase := .post c todo router items }
  else
    let new := takeNew minPrice s.seen page
    { s with seen := new.1 }.goOn c.sourceDelay (.fetch c todo minPrice router (items ++ new.2))

/-- The thread runs up to its next call. -/
def Poster.go (s : Poster) (cfg : Config) : Poster :=
  match s.phase with
  | .cycle => s.startCycle
  | .urls c todo => s.openUrl cfg c todo
  | .post c todo _ [] => s.leaveUrl c todo
  | .post c todo _ (_ :: _) => if s.stopped then s.leaveUrl c todo else s
  | .fallback c todo _ _ _ f => if f.candidates = [] then s.leaveUrl c todo else s
  | .fetch .. | .ended => s

/-- The source has answered. -/
def Poster.fetched (s : Poster) (page : Option (List (Option Item))) : Poster :=
  match s.phase, page with
  | .fetch c todo minPrice router items, some page => s.takePage c todo minPrice router items page
  | .fetch c todo _ router items, none => { s with phase := .post c todo router items }
  | _, _ => s

/-- An `_attempt_post`. -/
def Poster.attempt (s : Poster) (cfg : Config) (a : Answers) : Poster :=
  match s.phase with
  | .post c todo router (item :: items) =>
    if s.stopped then s
    else s.postItem cfg c todo item items (attemptPost cfg router false item a)
  | .fallback c todo router items item f =>
    if f.candidates = [] then s
    else
      let fresh : VariantRouter := { ctx := f.ctx }
      s.tryCandidate c todo router items item f (attemptPost cfg fresh s.stopped item a)
  | _ => s

/-- The `except Exception` of `poster_loop`. -/
def Poster.fail (s : Poster) : Poster :=
  match s.phase with
  | .urls c (_ :: todo) | .fetch c todo _ _ _ | .post c todo _ _ | .fallback c todo _ _ _ _ =>
    s.leaveUrl c todo
  | .cycle | .urls _ [] | .ended => s

/-- **`poster_loop`** and **`_process_target_url`**, statement by statement. -/
def step (cfg : Config) (s : Poster) : Action → Poster
  | .go => s.go cfg
  | .page page => s.fetched (some page)
  | .lastPage => s.fetched none
  | .attempt a => s.attempt cfg a
  | .raises => s.fail
  | .stop => { s with stopped := true }
  | .elapse t => { s with clock := s.clock + t }

end Sda.Dropship
