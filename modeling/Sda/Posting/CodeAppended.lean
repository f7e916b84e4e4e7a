/-
Sda/Posting/CodeAppended.lean

Whether a title with a tracking code appended gives the code back, and stays as it is when the code is
appended again.

Appending takes the old codes out of the title, short and bracketed ones, and cuts it.  Of the title
stay words, and what appending promises holds exactly if none of them has a code in it
(`appended_iff`).  A word can have one: a pool code is found by the reader and is not taken out, a
code glued to a code that is taken out begins only then, and a long word may be cut to a code.

* `appended_iff` — the exact condition, for every title and every code that is accepted;
* `pool_code_stays` — `Acc #12-ABCDE` keeps its pool code, and the new code is not the one found.
-/
import Sda.Lib.Search
import Sda.Lib.Words
import Sda.Posting.CodeSurvival

namespace Sda.Posting.TrackingCode

variable {u : Unicode}

/-! ### Codes that are accepted -/

/-- A # and six to eight characters of its class, the last of which is one of a word. -/
structure Accepted (u : Unicode) (body : List Char) : Prop where
  alnum : ∀ c ∈ body, alnum c = true
  length : 6 ≤ body.length ∧ body.length ≤ 8
  word : (Re.last (some '#') body).any u.word = true

theorem exists_of_fullmatch {text : List Char} (h : fullmatch (shortCode u) text = true) :
    ∃ body, text = '#' :: body ∧ Accepted u body := by
  obtain ⟨j, hj, hend⟩ := List.any_eq_true.mp h
  obtain ⟨i, hi, hj⟩ := List.mem_flatMap.mp hj
  rw [Re.still_eq (r := .notBehind TrackingCode.alnum) trivial hi] at hj
  obtain ⟨i, hi, hj⟩ := List.mem_flatMap.mp hj
  obtain ⟨c, htext, hlast, hc⟩ := Re.mem_go_chars hi
  obtain ⟨k, hk, hj⟩ := List.mem_flatMap.mp hj
  obtain ⟨body, hbody, hlast', halnum, hmin, hmax⟩ := Re.mem_go_times hk
  have hstill : j = k := Re.still_eq (r := .boundary u.word) trivial hj
  subst hstill
  have hnil : j.2 = [] := List.isEmpty_iff.mp hend
  rw [hnil, List.append_nil] at hbody
  obtain rfl : c = '#' := beq_iff_eq.mp hc
  refine ⟨body, ?_, halnum, ⟨hmin, hmax⟩, ?_⟩
  · rw [← hbody]
    exact htext
  · have hgo : j ∈ (if j.1.any u.word = j.2.head?.any u.word then ([] : List Place) else [j]) := hj
    by_cases hword : j.1.any u.word = j.2.head?.any u.word
    · rw [if_pos hword] at hgo
      cases hgo
    · rw [hnil] at hword
      rw [← hlast, ← hlast']
      exact Bool.eq_true_of_not_eq_false hword

/-- The letters beyond ASCII in a class that ignores case. -/
def foldedLetters : List Char :=
  [Char.ofNat 0x130, Char.ofNat 0x131, Char.ofNat 0x17f, Char.ofNat 0x212a]

theorem mem_of_foldsTo {l c : Char} (h : foldsTo l c = true) : c ∈ foldedLetters := by
  unfold foldsTo at h
  simp only [Bool.or_eq_true, Bool.and_eq_true, beq_iff_eq] at h
  rcases h with (⟨-, rfl | rfl⟩ | ⟨-, rfl⟩) | ⟨-, rfl⟩
  · exact List.mem_cons_self
  · exact List.mem_cons_of_mem _ List.mem_cons_self
  · exact List.mem_cons_of_mem _ (List.mem_cons_of_mem _ List.mem_cons_self)
  · exact List.mem_cons_of_mem _ (List.mem_cons_of_mem _ (List.mem_cons_of_mem _ List.mem_cons_self))

theorem alnum_cases {c : Char} (h : alnum c = true) : c.isAlphanum = true ∨ c ∈ foldedLetters := by
  unfold alnum at h
  simp only [Bool.or_eq_true] at h
  rcases h with ((h | h) | h) | h
  · exact Or.inl h
  · exact Or.inr (mem_of_foldsTo h)
  · exact Or.inr (mem_of_foldsTo h)
  · exact Or.inr (mem_of_foldsTo h)

/-- A character of a code is no blank. -/
theorem notSpace_of_alnum {c : Char} (h : alnum c = true) : isSpaceChar c = false := by
  rcases alnum_cases h with h | h
  · exact isSpaceChar_of_isAlphanum h
  · have hall : foldedLetters.all (fun d => !isSpaceChar d) = true := by decide
    have hspace := List.all_eq_true.mp hall c h
    rw [Bool.not_eq_true'] at hspace
    exact hspace

theorem ne_of_alnum {c d : Char} (h : alnum c = true) (hd : alnum d = false) : c ≠ d := by
  rintro rfl
  rw [h] at hd
  cases hd

namespace Accepted

variable {body : List Char}

theorem notSpace (h : Accepted u body) : ∀ c ∈ '#' :: body, isSpaceChar c = false := by
  intro c hc
  rcases List.mem_cons.mp hc with rfl | hc
  · decide
  · exact notSpace_of_alnum (h.alnum c hc)

theorem isWord (h : Accepted u body) : IsWord ('#' :: body) :=
  ⟨List.cons_ne_nil _ _, h.notSpace⟩

theorem strip_eq (h : Accepted u body) : strip ('#' :: body) = '#' :: body :=
  strip_of_ends (fun c hc => h.notSpace c (List.mem_of_mem_head? hc))
    fun c hc => h.notSpace c (List.mem_of_getLast? hc)

theorem not_mem (h : Accepted u body) {c : Char} (hc : TrackingCode.alnum c = false) (hsharp : c ≠ '#') :
    c ∉ '#' :: body := by
  intro hmem
  rcases List.mem_cons.mp hmem with rfl | hmem
  · exact hsharp rfl
  · rw [h.alnum c hmem] at hc
    cases hc

theorem search (h : Accepted u body) {b : Option Char} (hb : b.any TrackingCode.alnum = false) :
    (paTrackingCode u).search b ('#' :: body) = some ('#' :: body) := by
  obtain ⟨rest, hrest⟩ := go_body h.alnum h.length h.word hb
  exact search_of_go hrest

/-- The code is read as it is. -/
theorem codeOf_eq (h : Accepted u body) (hupper : upper u ('#' :: body) = '#' :: body) :
    codeOf u ('#' :: body) = '#' :: body := by
  have hbracket : ∀ c ∈ '#' :: body, ¬(c == '[' || c == ']') = true := by
    intro c hc hbracket
    simp only [Bool.or_eq_true, beq_iff_eq] at hbracket
    rcases hbracket with rfl | rfl
    · exact h.not_mem (by decide) (by decide) hc
    · exact h.not_mem (by decide) (by decide) hc
  unfold codeOf
  rw [h.strip_eq, hupper]
  have hfront : ('#' :: body).dropWhile (fun c => c == '[' || c == ']') = '#' :: body :=
    List.dropWhile_cons_of_neg (hbracket '#' List.mem_cons_self)
  dsimp only
  rw [hfront]
  apply List.rdropWhile_eq_self_iff.mpr
  exact fun hne => hbracket _ (List.getLast_mem hne)

end Accepted

/-! ### Words of the title -/

/-- The words of a title without its short and bracketed codes. -/
def wordsLeft (u : Unicode) (title : List Char) : List (List Char) :=
  words ((shortCode u).sub (fun _ => [' ']) none 0
    ((legacyTrackingCode u).sub (fun _ => [' ']) none 0 title))

theorem isWord_wordsLeft (u : Unicode) (title : List Char) : ∀ w ∈ wordsLeft u title, IsWord w :=
  fun _ => isWord_of_mem_words

/-- What is kept of a title are the words that fit. -/
theorem keptTitle_eq (u : Unicode) (title : List Char) (room : Nat) :
    keptTitle u title room = unwords (fitting room (wordsLeft u title)) :=
  cut_unwords (isWord_wordsLeft u title) room

/-- A code does not see a blank in front of it. -/
theorem search_behind {b : Option Char} (hb : b.any alnum = false) (x : List Char) :
    (paTrackingCode u).search b x = (paTrackingCode u).search none x := by
  have hbehind : ∀ {r : Re}, r.Starts → (Re.seq (.notBehind alnum) r).go (b, x) =
      (Re.seq (.notBehind alnum) r).go (none, x) := by
    intro r hr
    have hfree : (Re.notBehind alnum).go (b, x) = [(b, x)] :=
      if_neg (by rw [hb]; exact Bool.false_ne_true)
    have hnone : (Re.notBehind alnum).go (none, x) = [(none, x)] := rfl
    show ((Re.notBehind alnum).go (b, x)).flatMap r.go = ((Re.notBehind alnum).go (none, x)).flatMap r.go
    rw [hfree, hnone, List.flatMap_singleton, List.flatMap_singleton, Re.go_starts hr b none]
  apply Re.search_congr_front
  show (shortCode u).go (b, x) ++ ((legacyPoolCode u).go (b, x) ++ (legacyTrackingCode u).go (b, x)) =
    (shortCode u).go (none, x) ++
      ((legacyPoolCode u).go (none, x) ++ (legacyTrackingCode u).go (none, x))
  have hshort : (shortCode u).go (b, x) = (shortCode u).go (none, x) := hbehind trivial
  have hpool : (legacyPoolCode u).go (b, x) = (legacyPoolCode u).go (none, x) := hbehind trivial
  have hlegacy : (legacyTrackingCode u).go (b, x) = (legacyTrackingCode u).go (none, x) :=
    Re.go_starts (show (legacyTrackingCode u).Starts from trivial) b none x
  rw [hshort, hpool, hlegacy]

/-- **A code stands in one word.** -/
theorem search_unwords {ws : List (List Char)} :
    (paTrackingCode u).search none (unwords ws) = none ↔
      ∀ w ∈ ws, (paTrackingCode u).search none w = none := by
  induction ws with
  | nil => exact iff_of_true rfl nofun
  | cons w ws ih =>
    rw [List.forall_mem_cons, ← ih]
    rcases eq_or_ne ws [] with rfl | hne
    · rw [unwords_singleton]
      exact (and_iff_left rfl).symm
    · rw [unwords_cons hne, Re.search_append blind_paTrackingCode, Option.or_eq_none_iff,
        search_behind (b := some ' ') (by decide)]

/-! ### Characters that are no blanks -/

/-- The number of characters that are no blanks. -/
def ink (x : List Char) : Nat := x.countP fun c => !isSpaceChar c

theorem ink_pos_of_needs {r : Re} (hr : r.Needs fun c => isSpaceChar c = false) {m : List Char}
    (hm : r.Matches m) : ink [' '] < ink m := by
  obtain ⟨c, hc, hspace⟩ := hm.needs hr
  have hpos : 0 < ink m := List.countP_pos_iff.mpr ⟨c, hc, by rw [hspace]; rfl⟩
  exact hpos

theorem needs_shortCode : (shortCode u).Needs fun c => isSpaceChar c = false := by
  refine Or.inr (Or.inl ?_)
  intro c hc
  rw [beq_iff_eq.mp hc]
  decide

theorem notSpace_of_ignoreCase {l c : Char} (hl : isSpaceChar l = false)
    (h : ignoreCase l c = true) : isSpaceChar c = false := by
  unfold ignoreCase at h
  rcases Bool.or_eq_true_iff.mp h with h | h
  · by_cases hupper : c.isUpper = true
    · apply isSpaceChar_of_isAlphanum
      show (c.isUpper || c.isLower || c.isDigit) = true
      rw [hupper]
      rfl
    · have hlower : c.toLower = c := by
        unfold Char.toLower
        exact dif_neg fun hc => hupper (decide_eq_true hc)
      rw [← hlower, beq_iff_eq.mp h]
      exact hl
  · have hall : foldedLetters.all (fun d => !isSpaceChar d) = true := by decide
    have hspace := List.all_eq_true.mp hall c (mem_of_foldsTo h)
    rw [Bool.not_eq_true'] at hspace
    exact hspace

/-- A bracket has no other case. -/
theorem eq_of_ignoreCase {c : Char} (h : ignoreCase '[' c = true) : c = '[' := by
  unfold ignoreCase at h
  rcases Bool.or_eq_true_iff.mp h with h | h
  · have hlower : c.toLower = '[' := beq_iff_eq.mp h
    unfold Char.toLower at hlower
    split at hlower
    · next hc =>
      exfalso
      have hval : (c.val + ('a'.val - 'A'.val)).toNat = 91 := congrArg Char.toNat hlower
      have hmin : 65 ≤ c.val.toNat := UInt32.le_iff_toNat_le.mp hc.1
      have hmax : c.val.toNat ≤ 90 := UInt32.le_iff_toNat_le.mp hc.2
      have hshift : ('a'.val - 'A'.val).toNat = 32 := by decide
      rw [UInt32.toNat_add, hshift] at hval
      omega
    · exact hlower
  · unfold foldsTo at h
    simp at h

theorem needs_legacyTrackingCode : (legacyTrackingCode u).Needs fun c => isSpaceChar c = false := by
  refine Or.inl (Or.inl ?_)
  exact fun c hc => notSpace_of_ignoreCase (l := '[') (by decide) hc

theorem needs_legacyPoolCode : (legacyPoolCode u).Needs (· = '-') := by
  refine Or.inr (Or.inr (Or.inr (Or.inl ?_)))
  exact fun c hc => beq_iff_eq.mp hc

theorem ink_append (x y : List Char) : ink (x ++ y) = ink x + ink y := List.countP_append

theorem ink_unwords (ws : List (List Char)) : ink (unwords ws) = ink ws.flatten := by
  induction ws with
  | nil => rfl
  | cons w ws ih =>
    rw [List.flatten_cons, ink_append]
    rcases eq_or_ne ws [] with rfl | hne
    · rw [unwords_singleton]
      rfl
    · rw [unwords_cons hne, ink_append, ← ih]
      rfl

/-- Splitting and joining keeps all of them. -/
theorem ink_unwords_words (x : List Char) : ink (unwords (words x)) = ink x := by
  have hempty : ∀ parts : List (List Char), (parts.filter (· ≠ [])).flatten = parts.flatten := by
    intro parts
    induction parts with
    | nil => rfl
    | cons part parts ih => cases part <;> simpa using ih
  rw [ink_unwords]
  unfold words
  rw [hempty]
  induction x with
  | nil => rfl
  | cons c x ih =>
    have hcons : ink (c :: x) = ink [c] + ink x := ink_append [c] x
    rw [List.splitOnP_cons_eq_if_modifyHead, hcons]
    cases hc : isSpaceChar c with
    | true =>
      have hone : ink [c] = 0 := by
        unfold ink
        simp [hc]
      rw [if_pos rfl, List.flatten_cons, List.nil_append, ih, hone, Nat.zero_add]
    | false =>
      obtain ⟨y, rest, hsplit⟩ := List.exists_cons_of_ne_nil (List.splitOnP_ne_nil isSpaceChar x)
      rw [hsplit, List.flatten_cons] at ih
      rw [if_neg Bool.false_ne_true, hsplit, List.modifyHead_cons, List.flatten_cons, ← ih]
      exact ink_append [c] (y ++ rest.flatten)

theorem ink_keptTitle (u : Unicode) (title : List Char) (room : Nat) :
    ink (keptTitle u title room) ≤ ink ((shortCode u).sub (fun _ => [' ']) none 0
      ((legacyTrackingCode u).sub (fun _ => [' ']) none 0 title)) := by
  generalize hbase : (shortCode u).sub (fun _ => [' ']) none 0
    ((legacyTrackingCode u).sub (fun _ => [' ']) none 0 title) = base
  have hkept : keptTitle u title room =
      ((unwords (words base)).take room).rdropWhile isSpaceChar := by
    rw [← hbase]
    rfl
  have hprefix : keptTitle u title room <+: unwords (words base) := by
    rw [hkept]
    exact (List.rdropWhile_prefix _ _).trans (List.take_prefix _ _)
  rw [← ink_unwords_words base]
  exact hprefix.sublist.countP_le

/-- **A title that has a code is not kept as it is.** -/
theorem keptTitle_ne {title : List Char} {room : Nat}
    (h : (legacyTrackingCode u).search none title ≠ none ∨
      (shortCode u).search none title ≠ none) : keptTitle u title room ≠ title := by
  have hlegacy : ∀ m, (legacyTrackingCode u).Matches m → ink [' '] < ink m :=
    fun _ => ink_pos_of_needs needs_legacyTrackingCode
  have hshort : ∀ m, (shortCode u).Matches m → ink [' '] < ink m :=
    fun _ => ink_pos_of_needs needs_shortCode
  have hlt : ink (keptTitle u title room) < ink title := by
    apply lt_of_le_of_lt (ink_keptTitle u title room)
    by_cases hnone : (legacyTrackingCode u).search none title = none
    · rw [Re.sub_of_search_none hnone]
      exact Re.countP_sub_lt (h.resolve_left (not_not_intro hnone)) hshort
    · refine lt_of_le_of_lt ?_ (Re.countP_sub_lt hnone hlegacy)
      exact (Re.sub_rewrites _ _ _ _).countP_le fun m hm => le_of_lt (hshort m hm)
  intro heq
  rw [heq] at hlt
  exact lt_irrefl _ hlt

/-- One without is, if it fits. -/
theorem keptTitle_unwords {ws : List (List Char)} {room : Nat} (hws : ∀ w ∈ ws, IsWord w)
    (hfit : fitting room ws = ws)
    (hlegacy : (legacyTrackingCode u).search none (unwords ws) = none)
    (hshort : (shortCode u).search none (unwords ws) = none) :
    keptTitle u (unwords ws) room = unwords ws := by
  rw [keptTitle_eq]
  unfold wordsLeft
  rw [Re.sub_of_search_none hlegacy, Re.sub_of_search_none hshort, words_unwords hws, hfit]

/-! ### Appending -/

/-- What appending promises: a short title, from which the code is read, and which stays as it is when
the code is appended again. -/
def Appended (u : Unicode) (title code : List Char) : Prop :=
  ∃ t, appendTrackingCodeForCode u title code = .ok t ∧ t.length ≤ titleMaxLength ∧
    extractTrackingCode u [t] = upper u (strip code) ∧ appendTrackingCodeForCode u t code = .ok t

/-- The characters in front of the blank and the code. -/
def roomFor (normalized : List Char) : Nat := titleMaxLength - (normalized.length + 1)

/-- The title with the code. -/
def joined (base code : List Char) : List Char := if base = [] then code else base ++ ' ' :: code

section

variable {body : List Char}

theorem append_accepted (h : Accepted u body) {code : List Char}
    (hcode : upper u (strip code) = '#' :: body) (title : List Char) :
    appendTrackingCodeForCode u title code =
      .ok (joined (keptTitle u title (roomFor ('#' :: body))) ('#' :: body)) := by
  have hfull : fullmatch (shortCode u) ('#' :: body) = true := by
    obtain ⟨rest, hrest⟩ := go_body h.alnum h.length h.word (b := none) rfl
    unfold fullmatch
    rw [hrest]
    rfl
  have hroom : ¬titleMaxLength ≤ (' ' :: '#' :: body).length := by
    show ¬150 ≤ body.length + 1 + 1
    have := h.length.2
    omega
  unfold appendTrackingCodeForCode
  rw [hcode]
  dsimp only
  rw [hfull, if_neg (by decide), if_neg hroom]
  rfl

theorem length_joined (h : Accepted u body) (title : List Char) :
    (joined (keptTitle u title (roomFor ('#' :: body))) ('#' :: body)).length ≤ titleMaxLength := by
  have hbody := h.length.2
  have hkept : (keptTitle u title (roomFor ('#' :: body))).length ≤ roomFor ('#' :: body) := by
    apply le_trans (List.rdropWhile_prefix _ _).length_le
    exact List.length_take_le _ _
  unfold joined
  by_cases hnil : keptTitle u title (roomFor ('#' :: body)) = []
  · rw [if_pos hnil]
    show body.length + 1 ≤ 150
    omega
  · rw [if_neg hnil, List.length_append]
    have hroom : roomFor ('#' :: body) = 150 - (body.length + 1 + 1) := rfl
    show _ + (body.length + 1 + 1) ≤ 150
    omega

/-- What is read from the title: a code in front, or the new one. -/
theorem search_joined (h : Accepted u body) (base : List Char) :
    (paTrackingCode u).search none (joined base ('#' :: body)) =
      ((paTrackingCode u).search none base).or (some ('#' :: body)) := by
  unfold joined
  by_cases hnil : base = []
  · rw [if_pos hnil, hnil, h.search rfl]
    rfl
  · rw [if_neg hnil, Re.search_append blind_paTrackingCode, h.search (b := some ' ') (by decide)]

/-- Appending takes the code away that it has appended. -/
theorem keptTitle_joined (h : Accepted u body) (base : List Char) (room : Nat) :
    keptTitle u (joined base ('#' :: body)) room = keptTitle u base room := by
  have hlegacy : (legacyTrackingCode u).Blind ' ' := blind_paTrackingCode.2.2
  have hshort : (shortCode u).Blind ' ' := blind_paTrackingCode.1
  have hcode : ∀ b, (legacyTrackingCode u).sub (fun _ => [' ']) b 0 ('#' :: body) = '#' :: body := by
    intro b
    have hblocked : (legacyTrackingCode u).Blocked (· ∈ '#' :: body) := by
      refine Or.inl (Or.inl ?_)
      intro c hc
      rw [Bool.eq_false_iff]
      intro hbracket
      rw [eq_of_ignoreCase hbracket] at hc
      exact h.not_mem (by decide) (by decide) hc
    exact Re.sub_blocked hblocked fun _ hc => hc
  have hgone : ∀ b : Option Char, b.any alnum = false →
      (shortCode u).sub (fun _ => [' ']) b 0 ('#' :: body) = [' '] := by
    intro b hb
    obtain ⟨rest, hrest⟩ := go_body (u := u) h.alnum h.length h.word hb
    have hfirst : (shortCode u).first b ('#' :: body) = some ('#' :: body).length := by
      unfold Re.first
      rw [hrest]
      exact if_pos (Nat.zero_lt_succ _)
    rw [Re.sub, hfirst]
    show [' '] ++ (shortCode u).sub _ (some '#') body.length body = [' ']
    rw [Re.sub_skip (le_refl _), List.drop_length]
    rfl
  unfold joined
  by_cases hnil : base = []
  · rw [if_pos hnil, hnil, keptTitle_eq, keptTitle_eq]
    unfold wordsLeft
    rw [hcode, hgone none rfl]
    rfl
  · rw [if_neg hnil, keptTitle_eq, keptTitle_eq]
    unfold wordsLeft
    rw [Re.sub_append hlegacy _ (Nat.zero_le _), hcode, Re.sub_append hshort _ (Nat.zero_le _),
      hgone (some ' ') (by decide), words_append]
    have hblank : words [' '] = [] := by decide
    rw [hblank, List.append_nil]

theorem mem_dropWhile {p : Char → Bool} {c : Char} {x : List Char} (hc : p c = false) (h : c ∈ x) :
    c ∈ x.dropWhile p := by
  rw [← List.takeWhile_append_dropWhile (p := p) (l := x)] at h
  rcases List.mem_append.mp h with h | h
  · rw [List.mem_takeWhile_imp h] at hc
    cases hc
  · exact h

theorem mem_rdropWhile {p : Char → Bool} {c : Char} {x : List Char} (hc : p c = false) (h : c ∈ x) :
    c ∈ x.rdropWhile p :=
  List.mem_reverse.mpr (mem_dropWhile hc (List.mem_reverse.mpr h))

/-- A dash is read with the code. -/
theorem dash_mem_codeOf {m : List Char} (h : '-' ∈ m) : '-' ∈ codeOf u m := by
  have hstrip : '-' ∈ strip m := mem_rdropWhile (by decide) (mem_dropWhile (by decide) h)
  have hupper : '-' ∈ upper u (strip m) := by
    apply List.mem_flatMap.mpr
    refine ⟨'-', hstrip, ?_⟩
    rw [u.upper_ascii '-' (by decide)]
    decide
  exact mem_rdropWhile (by decide) (mem_dropWhile (by decide) hupper)

/-- In a title that is kept as it is only a pool code is found, and that is not the new one. -/
theorem codeOf_ne (h : Accepted u body) {base m : List Char} {room : Nat}
    (hkept : keptTitle u base room = base) (hm : (paTrackingCode u).search none base = some m) :
    codeOf u m ≠ '#' :: body := by
  have hshort : (shortCode u).search none base = none := by
    by_contra hfound
    exact keptTitle_ne (Or.inr hfound) hkept
  have hlegacy : (legacyTrackingCode u).search none base = none := by
    by_contra hfound
    exact keptTitle_ne (Or.inl hfound) hkept
  have hpool : (legacyPoolCode u).search none base = some m := by
    rw [← hm]
    exact ((Re.search_alt_right needs_shortCode hshort).trans
      (Re.search_alt_left needs_legacyPoolCode hlegacy)).symm
  obtain ⟨c, hc, rfl⟩ := (Re.search_some hpool).1.needs needs_legacyPoolCode
  intro heq
  have hdash := dash_mem_codeOf (u := u) hc
  rw [heq] at hdash
  exact h.not_mem (by decide) (by decide) hdash

theorem search_eq_none_iff (x : List Char) : (paTrackingCode u).search none x = none ↔
    (shortCode u).search none x = none ∧ (legacyPoolCode u).search none x = none ∧
      (legacyTrackingCode u).search none x = none := by
  show (Re.alt (shortCode u) (.alt (legacyPoolCode u) (legacyTrackingCode u))).search none x = none ↔ _
  rw [Re.search_alt_eq_none_iff needs_shortCode, Re.search_alt_eq_none_iff needs_legacyPoolCode]

theorem joined_inj {base base' code : List Char} : joined base code = joined base' code ↔ base = base' := by
  constructor
  · intro h
    unfold joined at h
    by_cases hnil : base = []
    · by_cases hnil' : base' = []
      · rw [hnil, hnil']
      · rw [if_pos hnil, if_neg hnil'] at h
        have hlength := congrArg List.length h
        rw [List.length_append, List.length_cons] at hlength
        omega
    · by_cases hnil' : base' = []
      · rw [if_neg hnil, if_pos hnil'] at h
        have hlength := congrArg List.length h
        rw [List.length_append, List.length_cons] at hlength
        omega
      · rw [if_neg hnil, if_neg hnil'] at h
        exact List.append_cancel_right h
  · rintro rfl
    rfl

/-- What appending promises, said of the title that is kept. -/
theorem appended_iff_kept (h : Accepted u body) {code : List Char}
    (hcode : upper u (strip code) = '#' :: body) (title : List Char) :
    Appended u title code ↔
      extractTrackingCode u
        [joined (keptTitle u title (roomFor ('#' :: body))) ('#' :: body)] = '#' :: body ∧
      keptTitle u (keptTitle u title (roomFor ('#' :: body))) (roomFor ('#' :: body)) =
        keptTitle u title (roomFor ('#' :: body)) := by
  have hfirst := append_accepted h hcode title
  have hlength := length_joined h title
  unfold Appended
  rw [hfirst, hcode]
  generalize keptTitle u title (roomFor ('#' :: body)) = base at hlength
  have hagain : appendTrackingCodeForCode u (joined base ('#' :: body)) code =
      .ok (joined (keptTitle u base (roomFor ('#' :: body))) ('#' :: body)) := by
    rw [append_accepted h hcode, keptTitle_joined h]
  constructor
  · rintro ⟨t, ht, -, hextract, hstays⟩
    obtain rfl := Except.ok.inj ht
    rw [hagain] at hstays
    exact ⟨hextract, joined_inj.mp (Except.ok.inj hstays)⟩
  · rintro ⟨hextract, hkept⟩
    refine ⟨_, rfl, hlength, hextract, ?_⟩
    rw [hagain, hkept]

/-- **Exactly when appending does what it promises.** -/
theorem appended_iff (u : Unicode) (hupper : ∀ c, ∀ d ∈ u.upper c, u.upper d = [d])
    (title code : List Char) (hcode : fullmatch (shortCode u) (upper u (strip code)) = true) :
    Appended u title code ↔
      ∀ w ∈ fitting (roomFor (upper u (strip code))) (wordsLeft u title),
        (paTrackingCode u).search none w = none := by
  obtain ⟨body, hbody, haccepted⟩ := exists_of_fullmatch hcode
  have hstable : upper u ('#' :: body) = '#' :: body := by
    rw [← hbody]
    apply upper_of_plain
    intro c hc
    obtain ⟨d, -, hd⟩ := List.mem_flatMap.mp hc
    exact hupper d c hd
  have hwords := isWord_fitting (isWord_wordsLeft u title) (roomFor ('#' :: body))
  have hfit := fitting_fitting (roomFor ('#' :: body)) (wordsLeft u title)
  rw [hbody, appended_iff_kept haccepted hbody, keptTitle_eq, ← search_unwords]
  generalize fitting (roomFor ('#' :: body)) (wordsLeft u title) = ws at hwords hfit
  have hextract : extractTrackingCode u [joined (unwords ws) ('#' :: body)] =
      (((paTrackingCode u).search none (unwords ws)).or (some ('#' :: body))).elim []
        (codeOf u) := by
    rw [extract_single, search_joined haccepted]
  rw [hextract]
  constructor
  · rintro ⟨hfound, hkept⟩
    cases hm : (paTrackingCode u).search none (unwords ws) with
    | none => rfl
    | some m =>
      rw [hm] at hfound
      exact absurd hfound (codeOf_ne haccepted hkept hm)
  · intro hnone
    obtain ⟨hshort, -, hlegacy⟩ := (search_eq_none_iff _).mp hnone
    rw [hnone]
    exact ⟨haccepted.codeOf_eq hstable, keptTitle_unwords hwords hfit hlegacy hshort⟩

end

/-- An upper-case letter of ASCII stays as it is. -/
theorem asciiTable_upper (c : Char) : ∀ d ∈ asciiTable.upper c, asciiTable.upper d = [d] := by
  intro d hd
  rw [List.mem_singleton.mp hd]
  show [c.toUpper.toUpper] = [c.toUpper]
  have hupper : ¬(c.toUpper.val ≥ 'a'.val ∧ c.toUpper.val ≤ 'z'.val) := by
    rintro ⟨hmin, hmax⟩
    unfold Char.toUpper at hmin hmax
    split at hmin
    · next hc =>
      rw [dif_pos hc] at hmax
      have hmin' : 97 ≤ (c.val + ('A'.val - 'a'.val)).toNat := UInt32.le_iff_toNat_le.mp hmin
      have hc1 : 97 ≤ c.val.toNat := UInt32.le_iff_toNat_le.mp hc.1
      have hc2 : c.val.toNat ≤ 122 := UInt32.le_iff_toNat_le.mp hc.2
      have hshift : ('A'.val - 'a'.val).toNat = 4294967264 := by decide
      rw [UInt32.toNat_add, hshift] at hmin'
      omega
    · next hc =>
      rw [dif_neg hc] at hmax
      exact hc ⟨hmin, hmax⟩
  have hstays : c.toUpper.toUpper = c.toUpper := dif_neg hupper
  rw [hstays]

theorem appended_at_smurf : Appended asciiTable "[PA-J1-I2] LoL  smurf".toList "#abc123".toList :=
  (appended_iff asciiTable asciiTable_upper _ _ (by decide +kernel)).mpr (by decide +kernel)

/-- The pool code of an old title is not taken out, and it is found before the new code. -/
theorem pool_code_stays : ¬Appended asciiTable "Acc #12-ABCDE".toList "#ABC123".toList := by
  rintro ⟨t, ht, -, hextract, -⟩
  have hjoined : appendTrackingCodeForCode asciiTable "Acc #12-ABCDE".toList "#ABC123".toList =
      .ok "Acc #12-ABCDE #ABC123".toList := by decide +kernel
  obtain rfl := Except.ok.inj (hjoined.symm.trans ht)
  revert hextract
  decide +kernel

end Sda.Posting.TrackingCode
