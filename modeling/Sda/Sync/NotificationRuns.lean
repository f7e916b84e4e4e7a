/-
Sda/Sync/NotificationRuns.lean

The watermark of the notification poll over whole runs: notifications arrive
and are read elsewhere, anything may rewrite the orders, and polls meet API
errors on any page.

A poll walks the unread feed in pages; a cursor names the place below the page
it came with, so what arrives meanwhile is not on a later page.

* `collect_pages` — what a poll collects: of the pages before the first error,
  the notifications above the watermark;
* `poll_lossless_iff` — one poll loses nothing exactly when it meets
  `PollReads`;
* `watermark_lossless_iff` — the same for runs.

The walk stops at an error but the watermark moves to the newest notification
seen, and the first poll of an account processes nothing: `PollReads` is what
rules both out.
-/
import Sda.Lib.Feed
import Sda.Lib.Run
import Sda.Sync.Notifications

namespace Sda.Sync

/-! ### What a poll collects -/

/-- The notification that stops the walk. -/
def isWatermark (lastSeenId : String) (n : Notification) : Bool :=
  lastSeenId != "" && n.id == lastSeenId

section Collect

variable {lastSeenId : String} {l : List Notification} {c : Collected}

theorem collectPage_stop {n : Notification} (h : isWatermark lastSeenId n = true) :
    collectPage lastSeenId (n :: l) c =
      ({ c with mostRecentId := c.mostRecentId.or (some n.id) }, true) := by
  rw [collectPage]
  exact if_pos (by simpa [isWatermark] using h)

theorem collectPage_pass {n : Notification} (h : isWatermark lastSeenId n = false) :
    collectPage lastSeenId (n :: l) c =
      collectPage lastSeenId l
        { newNotifications := c.newNotifications ++ [n]
          mostRecentId := c.mostRecentId.or (some n.id) } := by
  rw [collectPage]
  exact if_neg (by simpa [isWatermark] using h)

/-- **One page**: what is above the watermark, and whether it is on the page. -/
theorem collectPage_eq (l : List Notification) (c : Collected) :
    collectPage lastSeenId l c =
      ({ newNotifications := c.newNotifications ++ above (isWatermark lastSeenId) l
         mostRecentId := c.mostRecentId.or (l.head?.map Notification.id) },
        l.any (isWatermark lastSeenId)) := by
  induction l generalizing c with
  | nil => simp [collectPage]
  | cons n l ih =>
    by_cases hn : isWatermark lastSeenId n = true
    · rw [collectPage_stop hn, above_cons_of_stop hn, List.append_nil, List.any_cons, hn]
      rfl
    · have hn' := Bool.not_eq_true _ ▸ hn
      rw [collectPage_pass hn', ih, above_cons hn', List.any_cons, hn', List.append_assoc]
      rcases c.mostRecentId with - | recent <;> rfl

theorem collectPage_append (l l' : List Notification) (c : Collected) :
    (collectPage lastSeenId (l ++ l') c).1 =
      if (collectPage lastSeenId l c).2 = true then (collectPage lastSeenId l c).1
      else (collectPage lastSeenId l' (collectPage lastSeenId l c).1).1 := by
  induction l generalizing c with
  | nil => rfl
  | cons n l ih =>
    rw [List.cons_append]
    by_cases hn : isWatermark lastSeenId n = true
    · rw [collectPage_stop hn, collectPage_stop hn]
      rfl
    · have hn' := Bool.not_eq_true _ ▸ hn
      rw [collectPage_pass hn', collectPage_pass hn', ih]

end Collect

/-! ### The API over a feed -/

/-- What one poll meets: how the feed is cut into pages and which calls fail;
`raises` is about the sale notices. -/
structure Poll where
  sizes : List Nat := []
  fails : Nat → Bool := fun _ => false
  raises : SaleNotice → Bool := fun _ => false

def Poll.pages (p : Poll) (feed : List Notification) : List (List Notification) :=
  splitPages p.sizes feed

/-- The answers to a poll.  The cursor of a page is an opaque text, absent on
the last page. -/
def Poll.answers (p : Poll) (feed : List Notification) (n : Nat) (_cursor : String) :
    NotificationsAnswer :=
  if p.fails n then .failed "API error"
  else
    .page {
      results := (p.pages feed).getD n []
      nextPageCursor := if n + 1 < (p.pages feed).length then "next" else "" }

/-- What a poll can read of the feed: the pages before the first error. -/
def Poll.readable (p : Poll) (feed : List Notification) : List Notification :=
  (before p.fails 0 (p.pages feed)).flatten

/-- The calls a walk takes at most. -/
def Poll.calls (p : Poll) (feed : List Notification) : Nat :=
  (p.pages feed).length

section Walk

variable {p : Poll} {feed : List Notification} {lastSeenId : String}

theorem readable_isPrefix (p : Poll) (feed : List Notification) : p.readable feed <+: feed := by
  have h : p.readable feed <+: (p.pages feed).flatten := flatten_before_isPrefix 0 (p.pages feed)
  rwa [Poll.pages, flatten_splitPages] at h

/-- The walk from call `n` on, over the pages that are left. -/
theorem collect_from (done rest : List (List Notification)) (calls : Nat) (cursor : String)
    (c : Collected) (hpages : p.pages feed = done ++ rest) (hrest : rest ≠ [])
    (htrailing : rest.Pairwise fun page later => page = [] → later = [])
    (hcalls : rest.length ≤ calls) :
    collectNotifications (p.answers feed) lastSeenId calls done.length cursor c =
      some (collectPage lastSeenId (before p.fails done.length rest).flatten c).1 := by
  induction rest generalizing done calls cursor c with
  | nil => exact absurd rfl hrest
  | cons page rest ih =>
    -- there are at least as many calls left as pages
    obtain ⟨calls, rfl⟩ : ∃ m, calls = m + 1 := ⟨calls - 1, by simp at hcalls; omega⟩
    have hlater := (List.pairwise_cons.mp htrailing).1
    rw [collectNotifications, before]
    by_cases hfails : p.fails done.length = true
    · rw [Poll.answers, if_pos hfails, if_pos hfails]
      rfl
    have hpage : (p.pages feed).getD done.length [] = page := by
      rw [hpages, List.getD_eq_getElem?_getD, List.getElem?_append_right (Nat.le_refl _),
        Nat.sub_self]
      rfl
    rw [Poll.answers, if_neg hfails, if_neg hfails, hpage, List.flatten_cons]
    dsimp only
    rcases page with - | ⟨x, page⟩
    · -- an empty page ends the walk, and nothing is on a later one
      rw [flatten_before_eq_nil fun later h => hlater later h rfl]
      rfl
    rw [if_neg (by simp), collectPage_append]
    rcases hrest' : rest with - | ⟨next, rest'⟩
    · have hlast : ¬done.length + 1 < (p.pages feed).length := by
        rw [hpages, hrest']
        simp
      rw [if_neg hlast, if_pos (.inl rfl)]
      split <;> rfl
    · have hmore : done.length + 1 < (p.pages feed).length := by
        rw [hpages, hrest']
        simp
      rw [if_pos hmore]
      by_cases hhit : (collectPage lastSeenId (x :: page) c).2 = true
      -- the watermark is on this page: the pages after it add nothing
      · rw [if_pos (.inr hhit), if_pos hhit]
      · rw [if_neg (by simp [hhit]), if_neg hhit, ← hrest']
        have hih := ih (done ++ [x :: page]) calls "next"
          (collectPage lastSeenId (x :: page) c).1
          (by rw [hpages, List.append_assoc]; rfl) (by rw [hrest']; simp)
          (List.pairwise_cons.mp htrailing).2 (by simpa using hcalls)
        rwa [List.length_append] at hih

/-- **What a poll collects**: of the readable notifications, those above the
watermark. -/
theorem collect_pages (p : Poll) (feed : List Notification) (lastSeenId : String) :
    collectNotifications (p.answers feed) lastSeenId (p.calls feed) 0 cursorTop {} =
      some
        { newNotifications := above (isWatermark lastSeenId) (p.readable feed)
          mostRecentId := (p.readable feed).head?.map Notification.id } := by
  have hne : p.pages feed ≠ [] := by
    unfold Poll.pages
    cases p.sizes <;> exact List.cons_ne_nil _ _
  have h : collectNotifications (p.answers feed) lastSeenId (p.calls feed) 0 cursorTop {} = _ :=
    collect_from [] (p.pages feed) (p.calls feed) cursorTop {} rfl hne
      (splitPages_trailing _ _) (Nat.le_refl _)
  rw [collectPage_eq] at h
  exact h

end Walk

/-! ### The system -/

/-- An account's unread notifications, newest first, and what the polls did. -/
structure Inbox where
  feed : List Notification := []
  /-- The ids given out so far; the provider gives none out twice. -/
  issued : List String := []
  sync : StatusSync := {}
  /-- Ghost: the ids the polls have been through. -/
  processed : List String := []

inductive InboxEvent
  | arrive (n : Notification)
  /-- The notification is read elsewhere and leaves the unread feed. -/
  | read (id : String)
  /-- Anything else that writes the rows of the poll. -/
  | write (orders : Table Order) (listings : Table Listing)
  | poll (p : Poll) (account now : Nat)

def Inbox.watermark (s : Inbox) : String :=
  s.sync.checkpoint.lastSeenRemoteId

/-- What a poll collects from the inbox. -/
def Inbox.collected (s : Inbox) (p : Poll) : Collected where
  newNotifications := above (isWatermark s.watermark) (p.readable s.feed)
  mostRecentId := (p.readable s.feed).head?.map Notification.id

def inboxStep (s : Inbox) : InboxEvent → Inbox
  | .arrive n =>
    if n.id = "" ∨ n.id ∈ s.issued then s
    else { s with feed := n :: s.feed, issued := n.id :: s.issued }
  | .read id => { s with feed := s.feed.filter fun n => n.id != id }
  | .write orders listings => { s with sync := { s.sync with orders, listings } }
  | .poll p account now =>
    { s with
      sync := syncAccount (p.answers s.feed) (p.calls s.feed) account p.raises now s.sync
      processed :=
        if Bootstraps (s.collected p) s.sync then s.processed
        else s.processed ++ (s.collected p).newNotifications.map Notification.id }

/-- The notifications a later poll still collects. -/
def Inbox.reachable (s : Inbox) : List Notification :=
  above (isWatermark s.watermark) s.feed

/-- **Nothing is lost**: every unread notification was processed or is above
the watermark. -/
def Inbox.Lossless (s : Inbox) : Prop :=
  ∀ n ∈ s.feed, n.id ∈ s.processed ∨ n ∈ s.reachable

instance (s : Inbox) : Decidable s.Lossless :=
  inferInstanceAs (Decidable (∀ n ∈ s.feed, n.id ∈ s.processed ∨ n ∈ s.reachable))

/-- **The condition on a poll**: it reads nothing at all, or the account has a
watermark and every notification above it that was not processed is on a page
before the first error.  Without a watermark nothing may be unprocessed. -/
def PollReads (s : Inbox) : InboxEvent → Prop
  | .poll p _ _ =>
    p.readable s.feed = [] ∨
      ∀ n ∈ s.reachable, n.id ∈ s.processed ∨ s.watermark ≠ "" ∧ n ∈ p.readable s.feed
  | _ => True

/-- The ids of the feed were given out once, and the watermark was given out. -/
structure InboxInv (s : Inbox) : Prop where
  nonempty : ∀ n ∈ s.feed, n.id ≠ ""
  issued : ∀ n ∈ s.feed, n.id ∈ s.issued
  distinct : (s.feed.map Notification.id).Nodup
  watermark : s.watermark = "" ∨ s.watermark ∈ s.issued

section Runs

variable {s : Inbox} {p : Poll} {account now : Nat}

theorem sync_poll :
    (inboxStep s (.poll p account now)).sync
      = processNotifications account p.raises now (s.collected p) s.sync := by
  show syncAccount _ _ _ _ _ _ = _
  unfold syncAccount
  have hcollect : collectNotifications (p.answers s.feed) s.sync.checkpoint.lastSeenRemoteId
      (p.calls s.feed) 0 cursorTop {} = some (s.collected p) := collect_pages p s.feed _
  rw [hcollect]

/-- The watermark after a poll. -/
theorem watermark_poll :
    (inboxStep s (.poll p account now)).watermark =
      if (s.collected p).mostRecentId.getD "" = "" then s.watermark
      else (s.collected p).mostRecentId.getD "" := by
  unfold Inbox.watermark
  rw [sync_poll]
  by_cases hboot : Bootstraps (s.collected p) s.sync
  · rw [processNotifications_bootstrap hboot, if_neg hboot.2]
    rfl
  · rw [processNotifications_replay hboot]
    dsimp only
    split
    · rw [applyNotifications_checkpoint]
    · rfl

/-- The newest readable notification is the newest of the feed. -/
theorem head_readable {n : Notification} {l : List Notification} (h : p.readable s.feed = n :: l) :
    ∃ l', s.feed = n :: l' := by
  obtain ⟨rest, hrest⟩ := readable_isPrefix p s.feed
  rw [h] at hrest
  exact ⟨l ++ rest, hrest.symm⟩

theorem arrive_used {n : Notification} (h : n.id = "" ∨ n.id ∈ s.issued) :
    inboxStep s (.arrive n) = s :=
  if_pos h

theorem arrive_new {n : Notification} (h : ¬(n.id = "" ∨ n.id ∈ s.issued)) :
    inboxStep s (.arrive n) = { s with feed := n :: s.feed, issued := n.id :: s.issued } :=
  if_neg h

theorem inboxInv_step (hinv : InboxInv s) (e : InboxEvent) : InboxInv (inboxStep s e) := by
  cases e with
  | arrive n =>
    by_cases hused : n.id = "" ∨ n.id ∈ s.issued
    · rw [arrive_used hused]
      exact hinv
    · rw [arrive_new hused]
      obtain ⟨hne, hnew⟩ := not_or.mp hused
      refine ⟨?_, ?_, ?_, hinv.watermark.imp_right (List.mem_cons_of_mem _)⟩
      · exact List.forall_mem_cons.mpr ⟨hne, hinv.nonempty⟩
      · exact List.forall_mem_cons.mpr
          ⟨List.mem_cons_self, fun m hm => List.mem_cons_of_mem _ (hinv.issued m hm)⟩
      · refine List.nodup_cons.mpr ⟨fun hmem => hnew ?_, hinv.distinct⟩
        obtain ⟨m, hm, hid⟩ := List.mem_map.mp hmem
        rw [← hid]
        exact hinv.issued m hm
  | read id =>
    have hsub : ∀ n, n ∈ s.feed.filter (fun n => n.id != id) → n ∈ s.feed := fun n hn =>
      (List.mem_filter.mp hn).1
    exact ⟨fun n hn => hinv.nonempty n (hsub n hn), fun n hn => hinv.issued n (hsub n hn),
      hinv.distinct.sublist (List.filter_sublist.map _), hinv.watermark⟩
  | write orders listings => exact ⟨hinv.nonempty, hinv.issued, hinv.distinct, hinv.watermark⟩
  | poll p account now =>
    refine ⟨hinv.nonempty, hinv.issued, hinv.distinct, ?_⟩
    rw [watermark_poll]
    split
    · exact hinv.watermark
    · rcases hread : p.readable s.feed with - | ⟨n, l⟩
      · rename_i hrecent
        rw [Inbox.collected, hread] at hrecent
        exact absurd rfl hrecent
      · obtain ⟨l', hfeed⟩ := head_readable hread
        right
        show (Option.map Notification.id (p.readable s.feed).head?).getD "" ∈ s.issued
        rw [hread]
        exact hinv.issued n (by rw [hfeed]; exact List.mem_cons_self)

theorem lossless_arrive (hinv : InboxInv s) (h : s.Lossless) (n : Notification) :
    (inboxStep s (.arrive n)).Lossless := by
  by_cases hused : n.id = "" ∨ n.id ∈ s.issued
  · rw [arrive_used hused]
    exact h
  · rw [arrive_new hused]
    obtain ⟨hne, hnew⟩ := not_or.mp hused
    -- the watermark was given out before, so it is another id
    have hpass : isWatermark s.watermark n = false := by
      rcases hinv.watermark with hw | hw
      · simp [isWatermark, hw]
      · have : n.id ≠ s.watermark := fun he => hnew (he ▸ hw)
        simp [isWatermark, this]
    have hreach : ∀ feed, above (isWatermark s.watermark) (n :: feed) =
        n :: above (isWatermark s.watermark) feed := fun feed => above_cons hpass
    intro m hm
    show m.id ∈ s.processed ∨ m ∈ above (isWatermark s.watermark) (n :: s.feed)
    rw [hreach]
    rcases List.mem_cons.mp hm with rfl | hm
    · exact .inr List.mem_cons_self
    · exact (h m hm).imp_right (List.mem_cons_of_mem _)

theorem lossless_read (h : s.Lossless) (id : String) : (inboxStep s (.read id)).Lossless := by
  intro n hn
  obtain ⟨hmem, hkeep⟩ := List.mem_filter.mp hn
  exact (h n hmem).imp_right fun hreach => mem_above_filter hreach hkeep

/-- **One poll** loses nothing exactly when it meets the condition. -/
theorem poll_lossless_iff (hinv : InboxInv s) (h : s.Lossless) :
    (inboxStep s (.poll p account now)).Lossless ↔ PollReads s (.poll p account now) := by
  rcases hread : p.readable s.feed with - | ⟨n, l⟩
  · -- nothing was read: the watermark and the ghost stay
    have hcollected : s.collected p = { newNotifications := [], mostRecentId := none } := by
      rw [Inbox.collected, hread]
      rfl
    have hwatermark : (inboxStep s (.poll p account now)).watermark = s.watermark := by
      rw [watermark_poll, hcollected]
      exact if_pos rfl
    refine iff_of_true (fun m hm => ?_) (.inl hread)
    refine (h m hm).imp (fun hp => ?_) fun hr => ?_
    · show m.id ∈ (if _ then _ else _)
      split
      · exact hp
      · exact List.mem_append_left _ hp
    · show m ∈ above (isWatermark (inboxStep s (.poll p account now)).watermark) s.feed
      rw [hwatermark]
      exact hr
  · obtain ⟨l', hfeed⟩ := head_readable hread
    have hne : n.id ≠ "" := hinv.nonempty n (by rw [hfeed]; exact List.mem_cons_self)
    have hrecent : (s.collected p).mostRecentId.getD "" = n.id := by
      rw [Inbox.collected, hread]
      rfl
    have hwatermark : (inboxStep s (.poll p account now)).watermark = n.id := by
      rw [watermark_poll, hrecent]
      exact if_neg hne
    -- the top of the feed is the new watermark: nothing is above it
    have hreach : (inboxStep s (.poll p account now)).reachable = [] := by
      show above (isWatermark (inboxStep s (.poll p account now)).watermark) s.feed = []
      rw [hwatermark, hfeed]
      exact above_cons_of_stop (by simp [isWatermark, hne])
    have hlossless : (inboxStep s (.poll p account now)).Lossless ↔
        ∀ m ∈ s.feed, m.id ∈ (inboxStep s (.poll p account now)).processed := by
      refine forall₂_congr fun m _ => ?_
      rw [hreach]
      exact or_iff_left (List.not_mem_nil)
    have hcond : PollReads s (.poll p account now) ↔
        ∀ m ∈ s.reachable, m.id ∈ s.processed ∨ s.watermark ≠ "" ∧ m ∈ p.readable s.feed :=
      or_iff_right (by rw [hread]; exact List.cons_ne_nil _ _)
    rw [hlossless, hcond]
    by_cases hw : s.watermark = ""
    · have hboot : Bootstraps (s.collected p) s.sync := ⟨hw, by rw [hrecent]; exact hne⟩
      have hprocessed : (inboxStep s (.poll p account now)).processed = s.processed :=
        if_pos hboot
      rw [hprocessed]
      constructor
      · exact fun hall m hm => .inl (hall m (mem_of_mem_above hm))
      · intro hall m hm
        refine (h m hm).elim id fun hr => (hall m hr).elim id fun hr' => absurd hw hr'.1
    · have hboot : ¬Bootstraps (s.collected p) s.sync := fun hb => hw hb.1
      have hprocessed : (inboxStep s (.poll p account now)).processed
          = s.processed ++ (above (isWatermark s.watermark) (p.readable s.feed)).map
            Notification.id := if_neg hboot
      rw [hprocessed]
      constructor
      · intro hall m hm
        refine (List.mem_append.mp (hall m (mem_of_mem_above hm))).imp_right fun hmap => ⟨hw, ?_⟩
        obtain ⟨m', hm', hid⟩ := List.mem_map.mp hmap
        have hmem' := (readable_isPrefix p s.feed).subset (mem_of_mem_above hm')
        obtain rfl := List.inj_on_of_nodup_map hinv.distinct hmem' (mem_of_mem_above hm) hid
        exact mem_of_mem_above hm'
      · intro hall m hm
        rw [List.mem_append]
        refine (h m hm).elim .inl fun hr => (hall m hr).imp_right fun hr' => ?_
        exact List.mem_map.mpr
          ⟨m, mem_above_of_isPrefix (readable_isPrefix p s.feed) hr hr'.2, rfl⟩

/-- **When the watermark passes nothing.**  A run loses no notification
exactly when every poll of it reads, before its first error, all that is above
the watermark and was not processed. -/
theorem watermark_lossless_iff (hinv : InboxInv s) (h : s.Lossless) (es : List InboxEvent) :
    Always inboxStep Inbox.Lossless s es ↔ Along inboxStep PollReads s es := by
  refine always_iff_along (fun s e (hs : InboxInv s) => inboxInv_step hs e) ?_ hinv h es
  intro s e hs hl
  cases e with
  | arrive n => exact iff_of_true (lossless_arrive hs hl n) trivial
  | read id => exact iff_of_true (lossless_read hl id) trivial
  | write orders listings => exact iff_of_true hl trivial
  | poll p account now => exact poll_lossless_iff hs hl

/-- Two notifications above the watermark. -/
def backlog : Inbox where
  feed := [⟨"n2", "Order", "OrderDelivered", "o2"⟩, ⟨"n1", "Order", "OrderDelivered", "o1"⟩,
    ⟨"n0", "Order", "OrderDelivered", "o0"⟩]
  issued := ["n2", "n1", "n0"]
  sync := { checkpoint := { mode := .incremental, lastSeenRemoteId := "n0" } }
  processed := ["n0"]

theorem backlog_inv : InboxInv backlog :=
  ⟨by decide, by decide, by decide, by decide⟩

theorem watermark_lossless_at_backlog :
    Always inboxStep Inbox.Lossless backlog [.poll {} 1 0] ↔
      Along inboxStep PollReads backlog [.poll {} 1 0] :=
  watermark_lossless_iff backlog_inv (by decide) _

/-- One notification on the first page, an error on the second: the other is
neither processed nor collected again. -/
theorem watermark_lossless_fails :
    ¬Always inboxStep Inbox.Lossless backlog
      [.poll { sizes := [0], fails := fun n => n == 1 } 1 0] := by
  decide

end Runs

end Sda.Sync
