/-
Sda/Lib/Regex.lean

Regular expressions as a backtracking matcher runs them.

`Re.go r (b, x)` lists the places where a match of `r` can end that starts after the character `b`
in front of the text `x`, in the order in which the matcher tries them; the first one is the match.
`Re.sub` replaces the matches from left to right, and `Re.search` finds the first.  Both leave
empty matches aside, so they are for patterns that read at least one character.

Main results: `sub_append` and `search_append` — at a character that the pattern does not read, a
text falls into two parts that do not know of each other; `go_blocked` — a pattern that must read
what a text does not have; `sub_rewrites` — all that a substitution does to a text is to keep
characters and to replace matches.
-/
import Mathlib.Data.List.Basic
import Mathlib.Data.List.DropRight

namespace Sda

/-- Patterns.  The classes of characters are any predicates. -/
inductive Re
  /-- One character of a class. -/
  | chars (p : Char → Bool)
  | empty
  | seq (r s : Re)
  /-- The first one that matches. -/
  | alt (r s : Re)
  /-- As often as it can. -/
  | star (r : Re)
  /-- No such character before. -/
  | notBehind (p : Char → Bool)
  /-- No such character next. -/
  | notAhead (p : Char → Bool)
  /-- Between a character of a word and one that is none. -/
  | boundary (word : Char → Bool)

/-- The character before, and the text from here. -/
abbrev Place := Option Char × List Char

namespace Re

/-- Greedy repetition: as long as it moves on, then stop. -/
def goStar (f : Place → List Place) : Nat → Place → List Place
  | 0, i => [i]
  | n + 1, i => ((f i).filter fun j => j.2.length < i.2.length).flatMap (goStar f n) ++ [i]

/-- Where the matches end, in the order they are tried. -/
def go : Re → Place → List Place
  | .chars _, (_, []) => []
  | .chars p, (_, c :: x) => if p c = true then [(some c, x)] else []
  | .empty, i => [i]
  | .seq r s, i => (go r i).flatMap (go s)
  | .alt r s, i => go r i ++ go s i
  | .star r, i => goStar (go r) i.2.length i
  | .notBehind p, i => if i.1.any p = true then [] else [i]
  | .notAhead p, i => if i.2.head?.any p = true then [] else [i]
  | .boundary word, i => if i.1.any word = i.2.head?.any word then [] else [i]

/-- The length of the match that starts here. -/
def first (r : Re) (b : Option Char) (x : List Char) : Option Nat :=
  match go r (b, x) with
  | [] => none
  | i :: _ => if i.2.length < x.length then some (x.length - i.2.length) else none

/-- `re.sub`; in the middle of a match, so many characters of it are left. -/
def sub (r : Re) (rep : List Char → List Char) : Option Char → Nat → List Char → List Char
  | _, _, [] => []
  | _, k + 1, c :: x => sub r rep (some c) k x
  | b, 0, c :: x =>
    match r.first b (c :: x) with
    | some n => rep ((c :: x).take n) ++ sub r rep (some c) (n - 1) x
    | none => c :: sub r rep (some c) 0 x

/-- `re.search`. -/
def search (r : Re) : Option Char → List Char → Option (List Char)
  | _, [] => none
  | b, c :: x =>
    match r.first b (c :: x) with
    | some n => some ((c :: x).take n)
    | none => search r (some c) x

/-! ### Derived patterns -/

/-- One or more. -/
def plus (r : Re) : Re := .seq r (.star r)

/-- At most one. -/
def opt (r : Re) : Re := .alt r .empty

/-- Up to so many. -/
def upTo (r : Re) : Nat → Re
  | 0 => .empty
  | n + 1 => opt (.seq r (upTo r n))

/-- So many, and then up to so many more. -/
def times (r : Re) : Nat → Nat → Re
  | 0, n => upTo r n
  | m + 1, n => .seq r (times r m n)

/-- So many, or more. -/
def atLeast (r : Re) : Nat → Re
  | 0 => .star r
  | n + 1 => .seq r (atLeast r n)

/-- A list of patterns, one after the other. -/
def cat : List Re → Re
  | [] => .empty
  | [r] => r
  | r :: rs => .seq r (cat rs)

/-- One of a list of patterns. -/
def oneOf : List Re → Re
  | [] => .empty
  | [r] => r
  | r :: rs => .alt r (oneOf rs)

/-! ### What a match reads -/

/-- The character is in some class that the pattern reads. -/
def Reads : Re → Char → Prop
  | .chars p, c => p c = true
  | .seq r s, c | .alt r s, c => Reads r c ∨ Reads s c
  | .star r, c => Reads r c
  | _, _ => False

/-- The last character, or the one before the text. -/
def last (b : Option Char) (m : List Char) : Option Char := m.getLast?.or b

theorem last_append (b : Option Char) (m n : List Char) :
    last b (m ++ n) = last (last b m) n := by
  unfold last
  rw [List.getLast?_append, Option.or_assoc]

/-- A match reads a text of these characters and stops after it. -/
def Ends (r : Re) (i j : Place) : Prop :=
  ∃ m, i.2 = m ++ j.2 ∧ j.1 = last i.1 m ∧ ∀ c ∈ m, r.Reads c

theorem Ends.here (r : Re) (i : Place) : Ends r i i := ⟨[], rfl, rfl, nofun⟩

theorem Ends.trans {q r s : Re} {i j k : Place} (h : Ends r i j) (h' : Ends s j k)
    (hr : ∀ c, r.Reads c → q.Reads c) (hs : ∀ c, s.Reads c → q.Reads c) : Ends q i k := by
  obtain ⟨m, htext, hlast, hm⟩ := h
  obtain ⟨n, htext', hlast', hn⟩ := h'
  refine ⟨m ++ n, ?_, ?_, ?_⟩
  · rw [htext, htext', List.append_assoc]
  · rw [hlast', hlast, last_append]
  · intro c hc
    rcases List.mem_append.mp hc with hc | hc
    · exact hr c (hm c hc)
    · exact hs c (hn c hc)

theorem Ends.mono {q r : Re} {i j : Place} (h : Ends r i j)
    (hr : ∀ c, r.Reads c → q.Reads c) : Ends q i j := by
  obtain ⟨m, htext, hlast, hm⟩ := h
  exact ⟨m, htext, hlast, fun c hc => hr c (hm c hc)⟩

theorem ends_goStar {f : Place → List Place} {r : Re} (hf : ∀ i j, j ∈ f i → Ends r i j) (n : Nat)
    {i j : Place} (h : j ∈ goStar f n i) : Ends r i j := by
  induction n generalizing i with
  | zero =>
    rw [List.mem_singleton.mp h]
    exact Ends.here r i
  | succ n ih =>
    rcases List.mem_append.mp h with hmore | hstop
    · obtain ⟨k, hk, hj⟩ := List.mem_flatMap.mp hmore
      exact (hf i k (List.mem_filter.mp hk).1).trans (ih hj) (fun _ hc => hc) fun _ hc => hc
    · rw [List.mem_singleton.mp hstop]
      exact Ends.here r i

/-- Every match reads only what its classes allow.  The induction is on the pattern. -/
theorem ends_of_mem {r : Re} {i j : Place} (h : j ∈ go r i) : Ends r i j := by
  induction r generalizing i j with
  | chars p =>
    obtain ⟨b, x⟩ := i
    cases x with
    | nil => cases h
    | cons c x =>
      unfold go at h
      split at h
      · next hc =>
        rw [List.mem_singleton.mp h]
        refine ⟨[c], rfl, rfl, ?_⟩
        intro d hd
        rw [List.mem_singleton.mp hd]
        exact hc
      · cases h
  | empty =>
    rw [List.mem_singleton.mp h]
    exact Ends.here _ i
  | seq r s ihr ihs =>
    obtain ⟨k, hk, hj⟩ := List.mem_flatMap.mp h
    exact (ihr hk).trans (ihs hj) (fun _ => Or.inl) fun _ => Or.inr
  | alt r s ihr ihs =>
    rcases List.mem_append.mp h with hr | hs
    · exact (ihr hr).mono fun _ => Or.inl
    · exact (ihs hs).mono fun _ => Or.inr
  | star r ih => exact (ends_goStar (fun _ _ => ih) _ h).mono fun _ hc => hc
  | notBehind p | notAhead p | boundary word =>
    unfold go at h
    split at h
    · cases h
    · rw [List.mem_singleton.mp h]
      exact Ends.here _ i

/-! ### A character the pattern does not read -/

variable {r : Re} {c : Char} {rep : List Char → List Char}

/-- The pattern does not read the character, and takes it for the end of the text. -/
def Blind : Re → Char → Prop
  | .chars p, c | .notAhead p, c => p c = false
  | .seq r s, c | .alt r s, c => Blind r c ∧ Blind s c
  | .star r, c => Blind r c
  | .boundary word, c => word c = false
  | .empty, _ | .notBehind _, _ => True

/-- The place in the text that goes on behind the character. -/
def extend (y : List Char) (i : Place) : Place := (i.1, i.2 ++ y)

/-- More fuel than the text is long changes nothing. -/
theorem goStar_fuel (f : Place → List Place) {n m : Nat} {i : Place} (hn : i.2.length ≤ n)
    (hm : i.2.length ≤ m) : goStar f n i = goStar f m i := by
  induction n generalizing m i with
  | zero =>
    have hnil : (f i).filter (fun j => j.2.length < i.2.length) = [] := by
      apply List.filter_eq_nil_iff.mpr
      intro j _
      have := Nat.le_zero.mp hn
      simp [this]
    cases m with
    | zero => rfl
    | succ m =>
      show [i] = _ ++ [i]
      rw [hnil]
      rfl
  | succ n ih =>
    cases m with
    | zero =>
      have hnil : (f i).filter (fun j => j.2.length < i.2.length) = [] := by
        apply List.filter_eq_nil_iff.mpr
        intro j _
        have := Nat.le_zero.mp hm
        simp [this]
      show _ ++ [i] = [i]
      rw [hnil]
      rfl
    | succ m =>
      show _ ++ [i] = _ ++ [i]
      congr 1
      apply List.flatMap_congr
      intro j hj
      have hshort : j.2.length < i.2.length := by simpa using (List.mem_filter.mp hj).2
      exact ih (by omega) (by omega)

theorem goStar_extend {f : Place → List Place} {y : List Char}
    (hf : ∀ i, f (extend y i) = (f i).map (extend y)) (n : Nat) (i : Place) :
    goStar f n (extend y i) = (goStar f n i).map (extend y) := by
  induction n generalizing i with
  | zero => rfl
  | succ n ih =>
    have hfilter : (f (extend y i)).filter (fun j => j.2.length < (extend y i).2.length) =
        ((f i).filter fun j => j.2.length < i.2.length).map (extend y) := by
      rw [hf, List.filter_map]
      congr 1
      apply List.filter_congr
      intro j _
      simp [extend]
    show _ ++ [extend y i] = _
    rw [hfilter, List.flatMap_map]
    show _ = ((_ : List Place) ++ [i]).map (extend y)
    rw [List.map_append, List.map_flatMap]
    congr 1
    apply List.flatMap_congr
    intro j _
    exact ih j

/-- The matches in front of the character do not see what follows it. -/
theorem go_extend (h : r.Blind c) (y : List Char) (i : Place) :
    go r (extend (c :: y) i) = (go r i).map (extend (c :: y)) := by
  induction r generalizing i with
  | chars p =>
    obtain ⟨b, x⟩ := i
    cases x with
    | nil =>
      show (if p c = true then _ else []) = []
      exact if_neg (by rw [show p c = false from h]; exact Bool.false_ne_true)
    | cons d x =>
      show (if p d = true then _ else []) = (if p d = true then _ else []).map _
      split <;> rfl
  | empty => rfl
  | seq r s ihr ihs =>
    show (go r _).flatMap (go s) = ((go r i).flatMap (go s)).map _
    rw [ihr h.1, List.flatMap_map, List.map_flatMap]
    apply List.flatMap_congr
    intro j _
    exact ihs h.2 j
  | alt r s ihr ihs =>
    show go r _ ++ go s _ = (go r i ++ go s i).map _
    rw [ihr h.1, ihs h.2, List.map_append]
  | star r ih =>
    show goStar (go r) _ _ = (goStar (go r) i.2.length i).map _
    rw [goStar_extend (fun j => ih h j)]
    congr 1
    apply goStar_fuel
    · show i.2.length ≤ (i.2 ++ c :: y).length
      simp
    · exact le_refl _
  | notBehind p =>
    show (if i.1.any p = true then [] else _) = (if i.1.any p = true then [] else [i]).map _
    split <;> rfl
  | notAhead p =>
    have hnext : (extend (c :: y) i).2.head?.any p = i.2.head?.any p := by
      obtain ⟨b, x⟩ := i
      cases x with
      | nil => exact h
      | cons d x => rfl
    show (if _ = true then [] else _) = (if _ = true then [] else [i]).map _
    rw [hnext]
    split <;> rfl
  | boundary word =>
    have hnext : (extend (c :: y) i).2.head?.any word = i.2.head?.any word := by
      obtain ⟨b, x⟩ := i
      cases x with
      | nil => exact h
      | cons d x => rfl
    show (if _ = _ then [] else _) = (if _ = _ then [] else [i]).map _
    rw [hnext]
    show (if i.1.any word = _ then [] else _) = _
    split <;> rfl

theorem first_append (h : r.Blind c) (b : Option Char) (x y : List Char) :
    r.first b (x ++ c :: y) = r.first b x := by
  have hgo : go r (b, x ++ c :: y) = (go r (b, x)).map (extend (c :: y)) := go_extend h y (b, x)
  unfold first
  rw [hgo]
  cases go r (b, x) with
  | nil => rfl
  | cons i rest =>
    show (if (i.2 ++ c :: y).length < (x ++ c :: y).length then _ else _) = _
    simp only [List.length_append, Nat.add_lt_add_iff_right]
    split
    · have hlength : (extend (c :: y) i).2.length = i.2.length + (c :: y).length :=
        List.length_append
      rw [hlength, Nat.add_sub_add_right]
    · rfl

theorem first_nil (r : Re) (b : Option Char) : r.first b [] = none := by
  unfold first
  split
  · rfl
  · next i _ _ => exact if_neg (Nat.not_lt_zero i.2.length)

/-- A match is as long as the text at most, and reads a character. -/
theorem first_some {b : Option Char} {x : List Char} {n : Nat} (h : r.first b x = some n) :
    0 < n ∧ n ≤ x.length ∧ ∃ j ∈ go r (b, x), x = x.take n ++ j.2 ∧ j.2 = x.drop n := by
  unfold first at h
  split at h
  · cases h
  · next i rest hgo =>
    split at h
    · next hlt =>
      have hn := Option.some.inj h
      have hmem : i ∈ go r (b, x) := by
        rw [hgo]
        exact List.mem_cons_self
      obtain ⟨m, htext, -, -⟩ := ends_of_mem hmem
      have hx : x = m ++ i.2 := htext
      have hlength : x.length = m.length + i.2.length := by rw [hx, List.length_append]
      have hm : m.length = n := by omega
      refine ⟨by omega, by omega, i, hmem, ?_, ?_⟩
      · rw [hx, ← hm, List.take_left]
      · rw [hx, ← hm, List.drop_left]
    · cases h

theorem search_of_first {b : Option Char} {x : List Char} {n : Nat}
    (h : r.first b (c :: x) = some n) : search r b (c :: x) = some ((c :: x).take n) := by
  show (match r.first b (c :: x) with | some n => _ | none => _) = _
  rw [h]

theorem search_of_none {b : Option Char} {x : List Char} (h : r.first b (c :: x) = none) :
    search r b (c :: x) = search r (some c) x := by
  show (match r.first b (c :: x) with | some n => _ | none => _) = _
  rw [h]

/-- **Two parts.**  A substitution does not see across a character that its pattern does not
read. -/
theorem sub_append (h : r.Blind c) {b : Option Char} {k : Nat} {x : List Char} (y : List Char)
    (hk : k ≤ x.length) :
    sub r rep b k (x ++ c :: y) = sub r rep b k x ++ c :: sub r rep (some c) 0 y := by
  induction x generalizing b k with
  | nil =>
    have hzero : k = 0 := Nat.le_zero.mp hk
    subst hzero
    have hnone : r.first b (c :: y) = none := (first_append h b [] y).trans (first_nil r b)
    show (match r.first b (c :: y) with | some n => _ | none => _) = _
    rw [hnone]
    rfl
  | cons d x ih =>
    cases k with
    | succ k => exact ih (Nat.le_of_succ_le_succ hk)
    | zero =>
      have hfirst : r.first b (d :: (x ++ c :: y)) = r.first b (d :: x) :=
        first_append h b (d :: x) y
      show (match r.first b (d :: (x ++ c :: y)) with | some n => _ | none => _) =
        (match r.first b (d :: x) with | some n => _ | none => _) ++ _
      rw [hfirst]
      cases hmatch : r.first b (d :: x) with
      | none =>
        show d :: sub r rep (some d) 0 (x ++ c :: y) = d :: (sub r rep (some d) 0 x ++ _)
        rw [ih (Nat.zero_le _)]
      | some n =>
        have hn : n - 1 ≤ x.length := by
          have := (first_some hmatch).2.1
          rw [List.length_cons] at this
          omega
        have htake : (d :: x ++ c :: y).take n = (d :: x).take n :=
          List.take_append_of_le_length (first_some hmatch).2.1
        show rep ((d :: x ++ c :: y).take n) ++ sub r rep (some d) (n - 1) (x ++ c :: y) =
          rep ((d :: x).take n) ++ sub r rep (some d) (n - 1) x ++ _
        rw [htake, ih hn, List.append_assoc]

/-- A search neither. -/
theorem search_append (h : r.Blind c) {b : Option Char} {x : List Char} (y : List Char) :
    search r b (x ++ c :: y) = (search r b x).or (search r (some c) y) := by
  induction x generalizing b with
  | nil =>
    have hnone : r.first b (c :: y) = none := (first_append h b [] y).trans (first_nil r b)
    show (match r.first b (c :: y) with | some n => _ | none => _) = _
    rw [hnone]
    rfl
  | cons d x ih =>
    have hfirst : r.first b (d :: (x ++ c :: y)) = r.first b (d :: x) :=
      first_append h b (d :: x) y
    show (match r.first b (d :: (x ++ c :: y)) with | some n => _ | none => _) =
      Option.or (match r.first b (d :: x) with | some n => _ | none => _) _
    rw [hfirst]
    cases hmatch : r.first b (d :: x) with
    | none => exact ih
    | some n =>
      have hn : n ≤ (d :: x).length := (first_some hmatch).2.1
      show some ((d :: x ++ c :: y).take n) = some ((d :: x).take n)
      rw [List.take_append_of_le_length hn]

/-! ### A text the pattern cannot match -/

/-- The pattern must read a character that is none of these. -/
def Blocked (A : Char → Prop) : Re → Prop
  | .chars p => ∀ c, A c → p c = false
  | .seq r s => Blocked A r ∨ Blocked A s
  | .alt r s => Blocked A r ∧ Blocked A s
  | _ => False

variable {A : Char → Prop} {x : List Char}

theorem go_blocked (h : r.Blocked A) {i : Place} (hi : ∀ c ∈ i.2, A c) : go r i = [] := by
  induction r generalizing i with
  | chars p =>
    obtain ⟨b, x⟩ := i
    cases x with
    | nil => rfl
    | cons c x =>
      have hc : p c = false := h c (hi c List.mem_cons_self)
      exact if_neg (by rw [hc]; exact Bool.false_ne_true)
  | seq r s ihr ihs =>
    show (go r i).flatMap (go s) = []
    rcases h with hr | hs
    · rw [ihr hr hi]
      rfl
    · apply List.flatMap_eq_nil_iff.mpr
      intro j hj
      obtain ⟨m, htext, -, -⟩ := ends_of_mem hj
      apply ihs hs
      intro c hc
      apply hi
      rw [htext]
      exact List.mem_append_right m hc
  | alt r s ihr ihs =>
    show go r i ++ go s i = []
    rw [ihr h.1 hi, ihs h.2 hi]
    rfl
  | empty | star r ih | notBehind p | notAhead p | boundary word => cases h

theorem first_blocked (h : r.Blocked A) {b : Option Char} (hx : ∀ c ∈ x, A c) :
    r.first b x = none := by
  unfold first
  rw [go_blocked h hx]

/-- A substitution leaves such a text alone. -/
theorem sub_blocked (h : r.Blocked A) {b : Option Char} (hx : ∀ c ∈ x, A c) :
    sub r rep b 0 x = x := by
  induction x generalizing b with
  | nil => rfl
  | cons c x ih =>
    show (match r.first b (c :: x) with | some n => _ | none => _) = _
    rw [first_blocked h hx]
    show c :: sub r rep (some c) 0 x = c :: x
    rw [ih fun d hd => hx d (List.mem_cons_of_mem c hd)]

theorem search_blocked (h : r.Blocked A) {b : Option Char} (hx : ∀ c ∈ x, A c) :
    search r b x = none := by
  induction x generalizing b with
  | nil => rfl
  | cons c x ih =>
    show (match r.first b (c :: x) with | some n => _ | none => _) = _
    rw [first_blocked h hx]
    exact ih fun d hd => hx d (List.mem_cons_of_mem c hd)

/-! ### A class, as often as it can -/

theorem goStar_chars {p : Char → Bool} {w y : List Char} (hw : ∀ c ∈ w, p c = true)
    (hy : y.head?.any p = false) {n : Nat} (hn : w.length ≤ n) (b : Option Char) :
    ∃ rest, goStar (go (.chars p)) n (b, w ++ y) = (last b w, y) :: rest := by
  induction w generalizing n b with
  | nil =>
    have hstop : go (.chars p) (b, y) = [] := by
      cases y with
      | nil => rfl
      | cons c y =>
        apply if_neg
        rw [show p c = false from hy]
        exact Bool.false_ne_true
    refine ⟨[], ?_⟩
    cases n with
    | zero => rfl
    | succ n =>
      show ((go (.chars p) (b, y)).filter _).flatMap _ ++ [(b, y)] = _
      rw [hstop]
      rfl
  | cons c w ih =>
    have hc : go (.chars p) (b, c :: w ++ y) = [(some c, w ++ y)] :=
      if_pos (hw c List.mem_cons_self)
    cases n with
    | zero => cases hn
    | succ n =>
      obtain ⟨rest, hrest⟩ := ih (fun d hd => hw d (List.mem_cons_of_mem c hd))
        (Nat.le_of_succ_le_succ hn) (some c)
      have hlast : last b (c :: w) = last (some c) w := last_append b [c] w
      refine ⟨rest ++ [(b, c :: w ++ y)], ?_⟩
      show ((go (.chars p) (b, c :: w ++ y)).filter _).flatMap _ ++ [(b, c :: w ++ y)] = _
      rw [hc]
      simp [hrest, hlast]

/-- The first match takes all the characters of the class. -/
theorem go_star_chars {p : Char → Bool} {w y : List Char} (hw : ∀ c ∈ w, p c = true)
    (hy : y.head?.any p = false) (b : Option Char) :
    ∃ rest, go (.star (.chars p)) (b, w ++ y) = (last b w, y) :: rest := by
  apply goStar_chars hw hy
  simp

/-! ### What a match looks like -/

/-- Some match of the pattern reads this text. -/
def Matches (r : Re) (m : List Char) : Prop :=
  ∃ b x j, j ∈ go r (b, m ++ x) ∧ j.2 = x

theorem Matches.reads {m : List Char} (h : r.Matches m) : ∀ c ∈ m, r.Reads c := by
  obtain ⟨b, x, j, hj, hx⟩ := h
  obtain ⟨n, htext, -, hn⟩ := ends_of_mem hj
  have hmn : m = n := by
    have hends : m ++ x = n ++ x := by
      rw [← hx] at htext ⊢
      exact htext
    exact List.append_cancel_right hends
  rw [hmn]
  exact hn

/-- It reads nothing. -/
def Still : Re → Prop
  | .empty | .notBehind _ | .notAhead _ | .boundary _ => True
  | _ => False

theorem still_eq (h : r.Still) {i j : Place} (hj : j ∈ go r i) : j = i := by
  cases r with
  | empty => exact List.mem_singleton.mp hj
  | notBehind p | notAhead p | boundary word =>
    unfold go at hj
    split at hj
    · cases hj
    · exact List.mem_singleton.mp hj
  | chars p | seq r s | alt r s | star r => cases h

/-- The last character that it reads is one of these. -/
def Closes (A : Char → Prop) : Re → Prop
  | .chars p => ∀ c, p c = true → A c
  | .seq r s => Closes A s ∨ (Still s ∧ Closes A r)
  | .alt r s => Closes A r ∧ Closes A s
  | _ => False

theorem closes_of_mem (h : r.Closes A) {i j : Place} (hj : j ∈ go r i) : ∃ c, j.1 = some c ∧ A c := by
  induction r generalizing i j with
  | chars p =>
    obtain ⟨b, x⟩ := i
    cases x with
    | nil => cases hj
    | cons c x =>
      unfold go at hj
      split at hj
      · next hc =>
        rw [List.mem_singleton.mp hj]
        exact ⟨c, rfl, h c hc⟩
      · cases hj
  | seq r s ihr ihs =>
    obtain ⟨k, hk, hj⟩ := List.mem_flatMap.mp hj
    rcases h with hs | ⟨hstill, hr⟩
    · exact ihs hs hj
    · rw [still_eq hstill hj]
      exact ihr hr hk
  | alt r s ihr ihs =>
    rcases List.mem_append.mp hj with hr | hs
    · exact ihr h.1 hr
    · exact ihs h.2 hs
  | empty | star r ih | notBehind p | notAhead p | boundary word => cases h

theorem Matches.closes {m : List Char} (h : r.Matches m) (hr : r.Closes A) (hm : m ≠ []) :
    A (m.getLast hm) := by
  obtain ⟨b, x, j, hj, hx⟩ := h
  obtain ⟨n, htext, hlast, -⟩ := ends_of_mem hj
  obtain ⟨c, hc, hA⟩ := closes_of_mem hr hj
  have hmn : m = n := by
    have hends : m ++ x = n ++ x := by
      rw [← hx] at htext ⊢
      exact htext
    exact List.append_cancel_right hends
  rw [hlast, ← hmn, last, List.getLast?_eq_some_getLast hm] at hc
  have heq : m.getLast hm = c := Option.some.inj hc
  rw [heq]
  exact hA

/-- The number of characters that every match reads, where it is fixed. -/
def Width (n : Nat) : Re → Prop
  | .chars _ => n = 1
  | .seq r s => ∃ a b, Width a r ∧ Width b s ∧ n = a + b
  | .alt r s => Width n r ∧ Width n s
  | .star _ => False
  | _ => n = 0

theorem width_of_mem {n : Nat} (h : r.Width n) {i j : Place} (hj : j ∈ go r i) :
    i.2.length = n + j.2.length := by
  induction r generalizing i j n with
  | chars p =>
    obtain ⟨b, x⟩ := i
    cases x with
    | nil => cases hj
    | cons c x =>
      unfold go at hj
      split at hj
      · rw [List.mem_singleton.mp hj, show n = 1 from h, Nat.add_comm]
        rfl
      · cases hj
  | seq r s ihr ihs =>
    obtain ⟨a, b, hr, hs, rfl⟩ := h
    obtain ⟨k, hk, hj⟩ := List.mem_flatMap.mp hj
    rw [ihr hr hk, ihs hs hj, Nat.add_assoc]
  | alt r s ihr ihs =>
    rcases List.mem_append.mp hj with hr | hs
    · exact ihr h.1 hr
    · exact ihs h.2 hs
  | star r ih => cases h
  | empty => rw [still_eq (r := .empty) trivial hj, show n = 0 from h, Nat.zero_add]
  | notBehind p => rw [still_eq (r := .notBehind p) trivial hj, show n = 0 from h, Nat.zero_add]
  | notAhead p => rw [still_eq (r := .notAhead p) trivial hj, show n = 0 from h, Nat.zero_add]
  | boundary w => rw [still_eq (r := .boundary w) trivial hj, show n = 0 from h, Nat.zero_add]

theorem Matches.width {m : List Char} {n : Nat} (h : r.Matches m) (hr : r.Width n) :
    m.length = n := by
  obtain ⟨b, x, j, hj, rfl⟩ := h
  have hlength := width_of_mem hr hj
  rw [show ((b, m ++ j.2) : Place).2 = m ++ j.2 from rfl, List.length_append] at hlength
  omega

/-! ### What a substitution does -/

/-- From the one text to the other by keeping characters and replacing some texts. -/
inductive Rewrites (M : List Char → Prop) (rep : List Char → List Char) :
    List Char → List Char → Prop
  | nil : Rewrites M rep [] []
  | keep (c : Char) {x y : List Char} (h : Rewrites M rep x y) : Rewrites M rep (c :: x) (c :: y)
  | replace (m : List Char) (hm : m ≠ []) (hM : M m) {x y : List Char} (h : Rewrites M rep x y) :
    Rewrites M rep (m ++ x) (rep m ++ y)

theorem sub_skip {b : Option Char} {k : Nat} (hk : k ≤ x.length) :
    sub r rep b k x = sub r rep (last b (x.take k)) 0 (x.drop k) := by
  induction k generalizing b x with
  | zero => rfl
  | succ k ih =>
    cases x with
    | nil => cases hk
    | cons c x =>
      show sub r rep (some c) k x = _
      rw [ih (Nat.le_of_succ_le_succ hk)]
      congr 1
      show last (some c) (x.take k) = last b ([c] ++ x.take k)
      rw [last_append]
      rfl

/-- **All that a substitution does.**  The induction is on the length of the text. -/
theorem sub_rewrites (r : Re) (rep : List Char → List Char) (b : Option Char) (x : List Char) :
    Rewrites r.Matches rep x (sub r rep b 0 x) := by
  induction hlength : x.length using Nat.strong_induction_on generalizing b x with
  | _ n ih =>
    cases x with
    | nil => exact .nil
    | cons c x =>
      show Rewrites _ _ _ (match r.first b (c :: x) with | some n => _ | none => _)
      rw [List.length_cons] at hlength
      cases hmatch : r.first b (c :: x) with
      | none => exact .keep c (ih x.length (by omega) _ x rfl)
      | some k =>
        obtain ⟨hpos, hle, j, hj, htext, hdrop⟩ := first_some hmatch
        obtain ⟨k, rfl⟩ : ∃ m, k = m + 1 := ⟨k - 1, by omega⟩
        rw [List.length_cons] at hle
        have hrest := ih (x.drop k).length (by rw [List.length_drop]; omega)
          (last (some c) (x.take k)) (x.drop k) rfl
        show Rewrites _ _ (c :: x) (rep (c :: x.take k) ++ sub r rep (some c) k x)
        rw [sub_skip (by omega)]
        have hsplit : c :: x = (c :: x.take k) ++ x.drop k := by
          rw [List.cons_append, List.take_append_drop]
        rw [hsplit]
        refine .replace (c :: x.take k) (List.cons_ne_nil _ _) ?_ hrest
        exact ⟨b, x.drop k, j, hsplit ▸ hj, hdrop⟩

/-! ### Patterns put together -/

section Derived

variable {rs : List Re}

theorem blind_cat (h : ∀ s ∈ rs, s.Blind c) : (cat rs).Blind c := by
  induction rs with
  | nil => trivial
  | cons r rs ih =>
    have hr : r.Blind c := h r List.mem_cons_self
    have hrest : (cat rs).Blind c := ih fun s hs => h s (List.mem_cons_of_mem r hs)
    cases rs with
    | nil => exact hr
    | cons s rs => exact ⟨hr, hrest⟩

theorem blind_oneOf (h : ∀ s ∈ rs, s.Blind c) : (oneOf rs).Blind c := by
  induction rs with
  | nil => trivial
  | cons r rs ih =>
    have hr : r.Blind c := h r List.mem_cons_self
    have hrest : (oneOf rs).Blind c := ih fun s hs => h s (List.mem_cons_of_mem r hs)
    cases rs with
    | nil => exact hr
    | cons s rs => exact ⟨hr, hrest⟩

theorem blind_upTo (h : r.Blind c) : ∀ n, (upTo r n).Blind c
  | 0 => trivial
  | n + 1 => ⟨⟨h, blind_upTo h n⟩, trivial⟩

theorem blind_times (h : r.Blind c) : ∀ m n, (times r m n).Blind c
  | 0, n => blind_upTo h n
  | m + 1, n => ⟨h, blind_times h m n⟩

theorem blind_atLeast (h : r.Blind c) : ∀ n, (atLeast r n).Blind c
  | 0 => h
  | n + 1 => ⟨h, blind_atLeast h n⟩

theorem blocked_cat {s : Re} (hs : s ∈ rs) (h : s.Blocked A) : (cat rs).Blocked A := by
  induction rs with
  | nil => cases hs
  | cons r rs ih =>
    cases rs with
    | nil =>
      rw [List.mem_singleton.mp hs] at h
      exact h
    | cons q rs =>
      rcases List.mem_cons.mp hs with rfl | hrest
      · exact Or.inl h
      · exact Or.inr (ih hrest)

/-- A pattern that ends in a class. -/
theorem closes_cat (hne : rs ≠ []) (h : ∀ s ∈ rs, s.Closes A) : (cat rs).Closes A := by
  induction rs with
  | nil => exact absurd rfl hne
  | cons r rs ih =>
    cases rs with
    | nil => exact h r List.mem_cons_self
    | cons q rs =>
      exact Or.inl (ih (List.cons_ne_nil q rs) fun s hs => h s (List.mem_cons_of_mem r hs))

/-- What the pattern takes for the end of the text it does not read. -/
theorem Blind.not_reads (h : r.Blind c) : ¬r.Reads c := by
  induction r with
  | chars p =>
    intro hreads
    have hyes : p c = true := hreads
    rw [show p c = false from h] at hyes
    cases hyes
  | seq r s ihr ihs | alt r s ihr ihs =>
    rintro (hr | hs)
    · exact ihr h.1 hr
    · exact ihs h.2 hs
  | star r ih => exact ih h
  | empty | notBehind p | notAhead p | boundary word => exact id

/-- A greedy repetition takes all of a text of its class. -/
theorem go_upTo {p : Char → Bool} {n : Nat} (hx : ∀ c ∈ x, p c = true) (hn : x.length ≤ n)
    (b : Option Char) : ∃ rest, go (upTo (.chars p) n) (b, x) = (last b x, []) :: rest := by
  induction n generalizing b x with
  | zero =>
    rw [List.length_eq_zero_iff.mp (Nat.le_zero.mp hn)]
    exact ⟨[], rfl⟩
  | succ n ih =>
    cases x with
    | nil => exact ⟨[], rfl⟩
    | cons c x =>
      have hc : p c = true := hx c List.mem_cons_self
      obtain ⟨rest, hrest⟩ := ih (fun d hd => hx d (List.mem_cons_of_mem c hd))
        (Nat.le_of_succ_le_succ hn) (some c)
      have hone : go (.chars p) (b, c :: x) = [(some c, x)] := if_pos hc
      refine ⟨rest ++ [(b, c :: x)], ?_⟩
      show (go (.chars p) (b, c :: x)).flatMap (go (upTo (.chars p) n)) ++ [(b, c :: x)] = _
      rw [hone, List.flatMap_singleton, hrest, show c :: x = [c] ++ x from rfl, last_append]
      rfl

theorem go_times {p : Char → Bool} {m n : Nat} (hx : ∀ c ∈ x, p c = true) (hm : m ≤ x.length)
    (hn : x.length ≤ m + n) (b : Option Char) :
    ∃ rest, go (times (.chars p) m n) (b, x) = (last b x, []) :: rest := by
  induction m generalizing b x with
  | zero => exact go_upTo hx (by omega) b
  | succ m ih =>
    cases x with
    | nil => cases hm
    | cons c x =>
      have hc : p c = true := hx c List.mem_cons_self
      rw [List.length_cons] at hm hn
      obtain ⟨rest, hrest⟩ := ih (fun d hd => hx d (List.mem_cons_of_mem c hd)) (by omega)
        (by omega) (some c)
      have hone : go (.chars p) (b, c :: x) = [(some c, x)] := if_pos hc
      refine ⟨rest, ?_⟩
      show (go (.chars p) (b, c :: x)).flatMap (go (times (.chars p) m n)) = _
      rw [hone, List.flatMap_singleton, hrest, show c :: x = [c] ++ x from rfl, last_append]
      rfl

end Derived

section Rewrites

variable {M : List Char → Prop} {x y : List Char}

theorem Rewrites.eq_nil (h : Rewrites M rep x y) (hx : x = []) : y = [] := by
  cases h with
  | nil => rfl
  | keep c _ => cases hx
  | replace m hm _ _ => exact absurd (List.append_eq_nil_iff.mp hx).1 hm

/-- Only what a replacement brings in is new. -/
theorem Rewrites.forall_mem (h : Rewrites M rep x y) (hrep : ∀ m, M m → (∀ c ∈ m, A c) →
    ∀ c ∈ rep m, A c) (hx : ∀ c ∈ x, A c) : ∀ c ∈ y, A c := by
  induction h with
  | nil => exact hx
  | keep c _ ih =>
    intro d hd
    rcases List.mem_cons.mp hd with rfl | hd
    · exact hx d List.mem_cons_self
    · exact ih (fun e he => hx e (List.mem_cons_of_mem c he)) d hd
  | replace m _ hM _ ih =>
    intro d hd
    rcases List.mem_append.mp hd with hd | hd
    · exact hrep m hM (fun e he => hx e (List.mem_append_left _ he)) d hd
    · exact ih (fun e he => hx e (List.mem_append_right m he)) d hd

/-- The last character stays if no match takes it without bringing it back. -/
theorem Rewrites.getLast? (h : Rewrites M rep x y) {c : Char}
    (hM : ∀ m, M m → m.getLast? = some c → (rep m).getLast? = some c)
    (hx : x.getLast? = some c) : y.getLast? = some c := by
  induction h with
  | nil => exact hx
  | keep d hrest ih =>
    cases hrest with
    | nil => exact hx
    | keep e hrest =>
      rw [List.getLast?_cons_cons] at hx
      have := ih hx
      rw [List.getLast?_cons, this]
      rfl
    | replace m hm hMm hrest =>
      rw [List.getLast?_cons, List.getLast?_eq_some_getLast (by simp [hm])] at hx
      have := ih ((List.getLast?_eq_some_getLast (by simp [hm])).trans hx)
      rw [List.getLast?_cons, this]
      rfl
  | @replace m hm hMm x y hrest ih =>
    rw [List.getLast?_append] at hx ⊢
    cases hlast : x.getLast? with
    | some d =>
      rw [hlast] at hx ih
      rw [ih hx]
      rfl
    | none =>
      rw [hlast, Option.none_or] at hx
      have hnil : x = [] := List.getLast?_eq_none_iff.mp hlast
      subst hnil
      rw [hrest.eq_nil rfl]
      exact hM m hMm hx

end Rewrites

end Re

end Sda
