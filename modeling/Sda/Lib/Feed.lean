/-
Sda/Lib/Feed.lean

Feeds: lists read from the top, in pages, down to a stop.

* `above stop feed` — the entries a reader passes before the first one that
  stops it.  Entries join `above` at the top of the feed (`above_cons`), and
  entries that leave the feed never hide others (`mem_above_filter`);
* `splitPages sizes feed` — a feed cut into pages of given sizes, the rest on
  the last one;
* `before fails pages` — the pages up to the first failing one, a prefix of
  the feed (`flatten_before_isPrefix`);
* `pageOf size n feed` — page `n` of a feed cut into pages of one size;
* `raise key feed x` — `x` at the top, in the place of what had its key.

`mem_above_of_isPrefix` is what a reader of a prefix relies on: what it has read
and is above the stop, it has passed.
-/
import Mathlib.Data.List.Infix
import Mathlib.Data.List.TakeWhile
import Mathlib.Data.List.Induction

namespace Sda

variable {α : Type*}

/-! ### Above the stop -/

/-- The entries before the first one that stops the reader. -/
def above (stop : α → Bool) (feed : List α) : List α :=
  feed.takeWhile fun x => !stop x

section Above

variable {stop : α → Bool} {x : α} {feed l : List α}

@[simp] theorem above_nil : above stop [] = [] := rfl

theorem above_cons_of_stop (h : stop x = true) : above stop (x :: feed) = [] := by
  rw [above, List.takeWhile_cons_of_neg (by rw [h]; exact Bool.false_ne_true)]

theorem above_cons (h : stop x = false) : above stop (x :: feed) = x :: above stop feed := by
  rw [above, List.takeWhile_cons_of_pos (by rw [h]; rfl)]
  rfl

theorem mem_of_mem_above (h : x ∈ above stop feed) : x ∈ feed :=
  (List.takeWhile_prefix _).subset h

theorem not_stop_of_mem_above (h : x ∈ above stop feed) : stop x = false :=
  (Bool.not_eq_true' _).mp (List.mem_takeWhile_imp (p := fun y => !stop y) h)

theorem above_eq_self (h : ∀ x ∈ feed, stop x = false) : above stop feed = feed :=
  List.takeWhile_eq_self_iff.mpr fun x hx => by rw [h x hx]; rfl

theorem above_append_of_stop (h : ∃ x ∈ feed, stop x = true) :
    above stop (feed ++ l) = above stop feed := by
  induction feed with
  | nil =>
    obtain ⟨x, hx, -⟩ := h
    cases hx
  | cons y feed ih =>
    by_cases hy : stop y = true
    · rw [List.cons_append, above_cons_of_stop hy, above_cons_of_stop hy]
    · have hy' := Bool.not_eq_true _ ▸ hy
      obtain ⟨x, hx, hstop⟩ := h
      rcases List.mem_cons.mp hx with rfl | hx
      · exact absurd hstop hy
      · rw [List.cons_append, above_cons hy', above_cons hy', ih ⟨x, hx, hstop⟩]

theorem above_append (h : ∀ x ∈ feed, stop x = false) :
    above stop (feed ++ l) = feed ++ above stop l := by
  induction feed with
  | nil => rfl
  | cons y feed ih =>
    rw [List.cons_append, above_cons (h y List.mem_cons_self),
      ih fun x hx => h x (List.mem_cons_of_mem _ hx), List.cons_append]

/-- A page of what is above is what is above of the page. -/
theorem above_take (stop : α → Bool) (n : Nat) (feed : List α) :
    above stop (feed.take n) = (above stop feed).take n :=
  List.take_takeWhile.symm

/-- After a part of what is above, the rest of it is above. -/
theorem above_drop {n : Nat} (h : n ≤ (above stop feed).length) :
    above stop (feed.drop n) = (above stop feed).drop n := by
  induction feed generalizing n with
  | nil => simp
  | cons y feed ih =>
    rcases n with - | n
    · rfl
    · by_cases hy : stop y = true
      · rw [above_cons_of_stop hy] at h
        cases h
      · have hy' := Bool.not_eq_true _ ▸ hy
        rw [above_cons hy'] at h ⊢
        rw [List.drop_succ_cons, List.drop_succ_cons, ih (Nat.le_of_succ_le_succ h)]

theorem above_length_le (stop : α → Bool) (feed : List α) :
    (above stop feed).length ≤ feed.length :=
  (List.takeWhile_prefix _).length_le

/-- The first entries hold no stop exactly when that many are above it. -/
theorem not_stop_take_iff {n : Nat} (hn : n ≤ l.length) :
    (∀ x ∈ l.take n, stop x = false) ↔ n ≤ (above stop l).length := by
  induction l generalizing n with
  | nil => exact iff_of_true (by simp) hn
  | cons y l ih =>
    rcases n with - | n
    · exact iff_of_true (by simp) (Nat.zero_le _)
    rw [List.take_succ_cons, List.forall_mem_cons]
    by_cases hy : stop y = true
    · rw [above_cons_of_stop hy, hy]
      simp
    · have hy' := Bool.not_eq_true _ ▸ hy
      rw [above_cons hy', List.length_cons, Nat.succ_le_succ_iff,
        ih (Nat.le_of_succ_le_succ hn)]
      exact and_iff_right hy'

/-- A page below whose end something is above holds no stop. -/
theorem not_stop_of_lt {n : Nat} (h : n < (above stop l).length) (hx : x ∈ l.take n) :
    stop x = false := by
  have hall : (above stop l).take n = l.take n := by
    have hlen : (above stop (l.take n)).length = (l.take n).length := by
      rw [above_take, List.length_take, List.length_take]
      have := above_length_le stop l
      omega
    rw [← above_take]
    exact (List.takeWhile_prefix _).eq_of_length hlen
  rw [← hall] at hx
  exact not_stop_of_mem_above (List.mem_of_mem_take hx)

/-- A reader of a prefix passes what it has read and is above the stop. -/
theorem mem_above_of_isPrefix (hpre : l <+: feed) (h : x ∈ above stop feed) (hx : x ∈ l) :
    x ∈ above stop l := by
  obtain ⟨rest, rfl⟩ := hpre
  by_cases hstop : ∃ y ∈ l, stop y = true
  · rwa [above_append_of_stop hstop] at h
  · have hnone : ∀ y ∈ l, stop y = false := fun y hy => by
      by_contra hne
      exact hstop ⟨y, hy, Bool.not_eq_false _ ▸ hne⟩
    rw [above_eq_self hnone]
    exact hx

/-- Entries that leave the feed hide no other entry. -/
theorem mem_above_filter {keep : α → Bool} (h : x ∈ above stop feed) (hx : keep x = true) :
    x ∈ above stop (feed.filter keep) := by
  induction feed with
  | nil => cases h
  | cons y feed ih =>
    by_cases hy : stop y = true
    · rw [above_cons_of_stop hy] at h
      cases h
    · have hy' := Bool.not_eq_true _ ▸ hy
      rw [above_cons hy'] at h
      by_cases hkeep : keep y = true
      · rw [List.filter_cons_of_pos hkeep, above_cons hy']
        rcases List.mem_cons.mp h with rfl | h
        · exact List.mem_cons_self
        · exact List.mem_cons_of_mem _ (ih h)
      · rw [List.filter_cons_of_neg hkeep]
        rcases List.mem_cons.mp h with rfl | h
        · exact absurd hx hkeep
        · exact ih h

end Above

/-! ### Pages -/

/-- The feed in pages of the given sizes (at least one entry each), what is
left over on the last one. -/
def splitPages : List Nat → List α → List (List α)
  | [], feed => [feed]
  | size :: sizes, feed => feed.take (size + 1) :: splitPages sizes (feed.drop (size + 1))

/-- The pages before the first failing call, calls counted from `n`. -/
def before (fails : Nat → Bool) : Nat → List (List α) → List (List α)
  | _, [] => []
  | n, page :: pages => if fails n then [] else page :: before fails (n + 1) pages

section Pages

variable {fails : Nat → Bool} {sizes : List Nat} {feed : List α} {pages : List (List α)}

@[simp] theorem flatten_splitPages (sizes : List Nat) (feed : List α) :
    (splitPages sizes feed).flatten = feed := by
  induction sizes generalizing feed with
  | nil => simp [splitPages]
  | cons size sizes ih =>
    rw [splitPages, List.flatten_cons, ih, List.take_append_drop]

theorem splitPages_nil_feed : ∀ page ∈ splitPages sizes ([] : List α), page = [] := by
  induction sizes with
  | nil => simp [splitPages]
  | cons size sizes ih =>
    intro page hpage
    rcases List.mem_cons.mp hpage with rfl | hpage
    · exact List.take_nil
    · rw [List.drop_nil] at hpage
      exact ih page hpage

/-- After an empty page come only empty pages. -/
theorem splitPages_trailing (sizes : List Nat) (feed : List α) :
    (splitPages sizes feed).Pairwise fun page later => page = [] → later = [] := by
  induction sizes generalizing feed with
  | nil => exact List.pairwise_singleton _ _
  | cons size sizes ih =>
    refine List.pairwise_cons.mpr ⟨fun page hpage hempty => ?_, ih _⟩
    obtain rfl : feed = [] := by
      rcases feed with - | ⟨x, feed⟩
      · rfl
      · cases hempty
    rw [List.drop_nil] at hpage
    exact splitPages_nil_feed page hpage

theorem before_isPrefix (n : Nat) (pages : List (List α)) : before fails n pages <+: pages := by
  induction pages generalizing n with
  | nil => exact List.prefix_refl _
  | cons page pages ih =>
    rw [before]
    split
    · exact List.nil_prefix
    · exact List.cons_prefix_cons.mpr ⟨rfl, ih (n + 1)⟩

theorem flatten_before_isPrefix (n : Nat) (pages : List (List α)) :
    (before fails n pages).flatten <+: pages.flatten := by
  obtain ⟨rest, hrest⟩ := before_isPrefix n pages
  refine ⟨rest.flatten, ?_⟩
  rw [← List.flatten_append, hrest]

theorem flatten_before_eq_nil {n : Nat} (h : ∀ page ∈ pages, page = []) :
    (before fails n pages).flatten = [] :=
  List.flatten_eq_nil_iff.mpr fun page hpage =>
    h page ((before_isPrefix n pages).subset hpage)

end Pages

/-! ### Pages of one size -/

/-- Page `n`, counted from 0. -/
def pageOf (size n : Nat) (feed : List α) : List α :=
  (feed.drop (n * size)).take size

/-- The pages of a feed of that length. -/
def pageCount (size length : Nat) : Nat :=
  (length + size - 1) / size

section PageOf

variable {size n m : Nat} {feed : List α}

theorem pageOf_append_drop (size n : Nat) (feed : List α) :
    pageOf size n feed ++ feed.drop ((n + 1) * size) = feed.drop (n * size) := by
  rw [Nat.succ_mul, ← List.drop_drop, pageOf, List.take_append_drop]

theorem take_append_pageOf (size n : Nat) (feed : List α) :
    feed.take (n * size) ++ pageOf size n feed = feed.take ((n + 1) * size) := by
  rw [Nat.succ_mul, List.take_add]
  rfl

theorem pageOf_eq_nil_iff (hsize : 0 < size) : pageOf size n feed = [] ↔ feed.length ≤ n * size := by
  rw [pageOf, List.take_eq_nil_iff, List.drop_eq_nil_iff]
  exact or_iff_right (by omega)

/-- There is a page `n + 1` exactly when the feed is longer than the first
`n + 1` pages. -/
theorem succ_lt_pageCount_iff (hsize : 0 < size) (n length : Nat) :
    n + 1 < pageCount size length ↔ (n + 1) * size < length := by
  rw [pageCount, ← Nat.succ_le_iff, Nat.le_div_iff_mul_le hsize, Nat.succ_mul (n + 1)]
  omega

theorem mem_of_mem_pageOf {x : α} (h : x ∈ pageOf size n feed) : x ∈ feed :=
  List.mem_of_mem_drop (List.mem_of_mem_take h)

end PageOf

/-! ### To the top -/

section Raise

variable {κ : Type*} [DecidableEq κ] {key : α → κ} {x : α} {feed xs : List α}

/-- The entry at the top, and no other one with its key. -/
def raise (key : α → κ) (feed : List α) (x : α) : List α :=
  x :: feed.filter fun y => !decide (key y = key x)

/-- One after the other, the last one is at the top. -/
def raiseAll (key : α → κ) (feed xs : List α) : List α :=
  xs.foldl (raise key) feed

/-- A feed after entries were raised: on top entries with their keys, for each
key one, below them what has none of their keys. -/
theorem raiseAll_split (key : α → κ) (feed xs : List α) :
    ∃ top, raiseAll key feed xs = top ++ feed.filter (fun y => !decide (key y ∈ xs.map key)) ∧
      (∀ y ∈ top, key y ∈ xs.map key) ∧ ∀ x ∈ xs, ∃ y ∈ top, key y = key x := by
  induction xs using List.reverseRecOn with
  | nil => exact ⟨[], by simp [raiseAll], fun y hy => absurd hy List.not_mem_nil,
      fun x hx => absurd hx List.not_mem_nil⟩
  | append_singleton xs x ih =>
    obtain ⟨top, hsplit, htop, hall⟩ := ih
    have hlast : raiseAll key feed (xs ++ [x]) = raise key (raiseAll key feed xs) x := by
      rw [raiseAll, List.foldl_append]
      rfl
    refine ⟨x :: top.filter fun y => !decide (key y = key x), ?_, ?_, ?_⟩
    · rw [hlast, hsplit, raise, List.filter_append, List.filter_filter, List.cons_append]
      congr 2
      apply List.filter_congr
      intro y _
      simp [or_comm]
    · intro y hy
      rw [List.map_append]
      rcases List.mem_cons.mp hy with rfl | hy
      · exact List.mem_append_right _ List.mem_cons_self
      · exact List.mem_append_left _ (htop y (List.mem_of_mem_filter hy))
    · intro z hz
      by_cases hkey : key z = key x
      · exact ⟨x, List.mem_cons_self, hkey.symm⟩
      · rcases List.mem_append.mp hz with hz | hz
        · obtain ⟨y, hy, heq⟩ := hall z hz
          refine ⟨y, List.mem_cons_of_mem _ (List.mem_filter.mpr ⟨hy, ?_⟩), heq⟩
          rw [heq, decide_eq_false hkey]
          rfl
        · rw [List.mem_singleton] at hz
          exact absurd (congrArg key hz) hkey

end Raise

end Sda
