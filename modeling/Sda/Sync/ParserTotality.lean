/-
Sda/Sync/ParserTotality.lean

When `parse_credentials_text` returns.

A line with two colons or more is split at the labels of the table that end right before a colon.
The label is put together from the words of the line with single blanks between them and is then
looked for in the line as it stands, so it is not found where the words are further apart, and
`str.index` raises.  This is the only way to fail: every step of the labelled pass that fails hands
its line to the split, and the line has such a `Stretched` label.

Main results: `splitColonPairs_error_iff` — one line; `labeledStep_error_iff` — one step of the
pass; `labeledLoop_error_iff` — the whole pass, by the steps it makes;
`parse_credentials_text_total_iff` — the parser.
-/
import Mathlib.Data.List.Infix
import Mathlib.Logic.Relation
import Sda.Sync.CredentialParser

namespace Sda.Sync.CredentialText

open Pattern

variable {t : Tables}

theorem not_error {α : Type} {a : α} : ¬∃ e : PyError, (.ok a : Except PyError α) = .error e := by
  rintro ⟨e, he⟩
  cases he

/-! ### Arrows -/

theorem Cut.uncons {p : Piece} {ps : List Piece} {i k : Place} {gs : List (List Char)}
    (h : Cut (p :: ps) i gs k) : ∃ j gs', j ∈ p.re.go i ∧ Cut ps j gs' k := by
  cases h with
  | cons hj hcut => exact ⟨_, _, hj, hcut⟩

theorem mem_go_chars {p : Char → Bool} {i j : Place} (h : j ∈ Re.go (.chars p) i) :
    ∃ c, p c = true ∧ i.2 = c :: j.2 := by
  obtain ⟨b, x⟩ := i
  cases x with
  | nil => cases h
  | cons c x =>
    unfold Re.go at h
    split at h
    · next hc =>
      rw [List.mem_singleton.mp h]
      exact ⟨c, hc, rfl⟩
    · cases h

/-- One character or more of a class: what is read ends in one of them. -/
theorem mem_go_plus {p : Char → Bool} {i j : Place} (h : j ∈ Re.go (.plus (.chars p)) i) :
    ∃ m c, p c = true ∧ i.2 = m ++ c :: j.2 := by
  obtain ⟨k, hk, hj⟩ := List.mem_flatMap.mp h
  obtain ⟨c, hc, htext⟩ := mem_go_chars hk
  obtain ⟨m, hrest, -, hm⟩ := Re.ends_of_mem hj
  rcases List.eq_nil_or_concat' m with rfl | ⟨m, d, rfl⟩
  · exact ⟨[], c, hc, by rw [htext, hrest]; rfl⟩
  · refine ⟨c :: m, d, hm d (by simp), ?_⟩
    rw [htext, hrest]
    simp

/-- A match of the arrow pattern ends in an arrow. -/
theorem cut_arrow {i k : Place} {gs : List (List Char)} (h : Cut (multiArrowLabelRe t) i gs k) :
    ∃ m, i.2 = m ++ '-' :: '>' :: k.2 := by
  obtain ⟨j₁, gs₁, h₁, hcut⟩ := Cut.uncons h
  obtain ⟨j₂, gs₂, h₂, hcut⟩ := Cut.uncons hcut
  obtain ⟨j₃, gs₃, h₃, hcut⟩ := Cut.uncons hcut
  obtain ⟨j₄, gs₄, h₄, hcut⟩ := Cut.uncons hcut
  obtain ⟨j₅, gs₅, h₅, hcut⟩ := Cut.uncons hcut
  cases hcut
  obtain ⟨m₁, e₁, -, -⟩ := Re.ends_of_mem h₁
  obtain ⟨m₂, e₂, -, -⟩ := Re.ends_of_mem h₂
  obtain ⟨m₃, e₃, -, -⟩ := Re.ends_of_mem h₃
  obtain ⟨m₄, c, hc, e₄⟩ := mem_go_plus h₄
  obtain ⟨d, hd, e₅⟩ := mem_go_chars h₅
  obtain rfl : c = '-' := by simpa using hc
  obtain rfl : d = '>' := by simpa using hd
  refine ⟨m₁ ++ m₂ ++ m₃ ++ m₄, ?_⟩
  rw [e₁, e₂, e₃, e₄, e₅]
  simp

/-- Every match that is found in a line ends behind an arrow. -/
theorem findAll_arrow {line : List Char} {n pos : Nat} {b : Option Char} (hpos : pos ≤ line.length)
    {m : Nat × Nat × List (List Char)}
    (h : m ∈ findAll (multiArrowLabelRe t) n pos (b, line.drop pos)) :
    ['-', '>'] <+: line.drop (m.2.1 - 2) := by
  induction n generalizing pos b with
  | zero => cases h
  | succ n ih =>
    unfold findAll at h
    split at h
    · next f hfound =>
      obtain ⟨b', hstart, hcut⟩ := searchFrom_sound hfound
      obtain ⟨w, hw⟩ := cut_arrow hcut
      have hdrop : line.drop (pos + f.start) = w ++ '-' :: '>' :: f.after.2 := by
        rw [← List.drop_drop]
        exact hw
      have hlength := congrArg List.length hdrop
      simp only [List.length_drop, List.length_append, List.length_cons] at hlength hstart
      -- the match stops where what follows begins
      have hstop : pos + ((line.drop pos).length - f.after.2.length) =
          pos + f.start + w.length + 2 := by
        rw [List.length_drop]
        omega
      have harrow : line.drop (pos + f.start + w.length) = '-' :: '>' :: f.after.2 := by
        rw [← List.drop_drop, hdrop, List.drop_left]
      have hafter : f.after = (f.after.1, line.drop (pos + f.start + w.length + 2)) := by
        rw [← List.drop_drop, harrow]
        rfl
      rcases List.mem_cons.mp h with rfl | h
      · show ['-', '>'] <+: line.drop (pos + ((line.drop pos).length - f.after.2.length) - 2)
        rw [hstop, Nat.add_sub_cancel, harrow]
        exact List.prefix_append ['-', '>'] _
      · have htail : m ∈ findAll (multiArrowLabelRe t) n
            (pos + ((line.drop pos).length - f.after.2.length)) f.after := h
        rw [hstop, hafter] at htail
        exact ih (by omega) htail
    · cases h

theorem arrowPairs_ok {line : List Char} {splits : List (Nat × Nat × List (List Char))}
    (h : ∀ m ∈ splits, ['-', '>'] <+: line.drop (m.2.1 - 2)) :
    ∃ pairs, arrowPairs line splits = .ok pairs := by
  induction splits with
  | nil => exact ⟨[], rfl⟩
  | cons m more ih =>
    obtain ⟨pairs, hpairs⟩ := ih fun m' hm => h m' (List.mem_cons_of_mem m hm)
    have hindex : indexFrom ['-', '>'] line (m.2.1 - 2) = some (0 + (m.2.1 - 2)) := by
      unfold indexFrom
      rw [findChars_front (h m List.mem_cons_self)]
      rfl
    obtain ⟨start, stop_, groups⟩ := m
    unfold arrowPairs
    rw [hindex, hpairs]
    exact ⟨_, rfl⟩

/-- **The arrow split** always returns. -/
theorem splitArrowPairs_ok (line : List Char) : ∃ r, splitArrowPairs t line = .ok r := by
  unfold splitArrowPairs
  dsimp only
  split
  · exact ⟨none, rfl⟩
  · have harrows : ∀ m ∈ findAll (multiArrowLabelRe t) line.length 0 (none, line),
        ['-', '>'] <+: line.drop (m.2.1 - 2) := fun m hm => findAll_arrow (Nat.zero_le _) hm
    obtain ⟨pairs, hpairs⟩ := arrowPairs_ok harrows
    rw [hpairs]
    exact ⟨some pairs, rfl⟩

/-! ### The words of a text -/

/-- The last word. -/
def lastWord (s : List Char) : List Char := s.rtakeWhile fun c => !isSpaceChar c

theorem words_append_blank {c : Char} (hc : isSpaceChar c = true) (x y : List Char) :
    words (x ++ c :: y) = words x ++ words y := by
  unfold words
  rw [List.splitOnP_append_cons x y hc, List.filter_append]

theorem words_word {w : List Char} (hw : ∀ c ∈ w, isSpaceChar c = false) (hne : w ≠ []) :
    words w = [w] := by
  unfold words
  rw [List.splitOnP_eq_singleton hw]
  simp [hne]

/-- A text that does not end in a blank ends in its last word. -/
theorem words_getLast {s : List Char} (hne : s ≠ []) (hend : s.rdropWhile isSpaceChar = s) :
    (words s).getLast? = some (lastWord s) := by
  have hlast : lastWord s ≠ [] := by
    intro hnil
    have hblank := List.rtakeWhile_eq_nil_iff.mp hnil hne
    have hkept := List.rdropWhile_eq_self_iff.mp hend hne
    cases hc : isSpaceChar (s.getLast hne) with
    | true => exact hkept hc
    | false => exact hblank (by rw [hc]; rfl)
  have hword : ∀ c ∈ lastWord s, isSpaceChar c = false := by
    intro c hc
    simpa using List.mem_rtakeWhile_imp hc
  have hsplit : s.rdropWhile (fun c => !isSpaceChar c) ++ lastWord s = s :=
    List.rdropWhile_append_rtakeWhile
  rcases List.eq_nil_or_concat' (s.rdropWhile fun c => !isSpaceChar c) with hnil | ⟨x, c, hx⟩
  · rw [hnil, List.nil_append] at hsplit
    have hs : s = lastWord s := hsplit.symm
    rw [← hs] at hword hlast
    rw [words_word hword hlast, ← hs]
    rfl
  · have hc : isSpaceChar c = true := by
      have hne' : s.rdropWhile (fun c => !isSpaceChar c) ≠ [] := by rw [hx]; simp
      have := List.rdropWhile_last_not _ s hne'
      simpa [hx] using this
    have hs : s = x ++ c :: lastWord s := by
      rw [hx] at hsplit
      simpa using hsplit.symm
    rw [hs, words_append_blank hc, ← hs, words_word hword hlast]
    simp

theorem joinWords_concat (ws : List (List Char)) (w : List Char) :
    joinWords (ws ++ [w]) = if ws = [] then w else joinWords ws ++ ' ' :: w := by
  induction ws with
  | nil => simp [joinWords, joinChars]
  | cons v ws ih =>
    unfold joinWords joinChars at ih ⊢
    rw [List.cons_append, List.intercalate_cons_of_ne_nil (by simp), ih]
    cases ws with
    | nil => simp
    | cons u ws => simp

theorem lastWord_append {w : List Char} (hw : ∀ c ∈ w, isSpaceChar c = false) (x : List Char) :
    lastWord (x ++ ' ' :: w) = w := by
  have hblank : ¬(!isSpaceChar ' ') = true := by decide
  unfold lastWord
  induction w using List.reverseRecOn with
  | nil => exact List.rtakeWhile_concat_neg _ _ _ hblank
  | append_singleton w c ih =>
    have hc : (!isSpaceChar c) = true := by simp [hw c (by simp)]
    have hrest := ih fun d hd => hw d (List.mem_append_left _ hd)
    rw [← List.cons_append, ← List.append_assoc,
      List.rtakeWhile_concat_pos (fun c => !isSpaceChar c) _ c hc, hrest]

theorem notSpace_of_concat {x : List Char} {d : Char}
    (h : (x ++ [d]).rdropWhile isSpaceChar = x ++ [d]) : isSpaceChar d = false := by
  have hlast := List.rdropWhile_eq_self_iff.mp h (by simp)
  simpa using hlast

/-- Some of the last words of a text end in its last word. -/
theorem eq_concat_lastWord {before : List Char} {ws : List (List Char)} (hne : before ≠ [])
    (hend : before.rdropWhile isSpaceChar = before) (hws : ws <:+ words before) (hws' : ws ≠ []) :
    ∃ vs, ws = vs ++ [lastWord before] := by
  have hlast := words_getLast hne hend
  obtain ⟨us, hus⟩ := hws
  rw [← hus, List.getLast?_append_of_ne_nil _ hws'] at hlast
  exact ⟨ws.dropLast, (List.dropLast_append_getLast? _ hlast).symm⟩

/-- With one more character behind them, the joined words would end in another last word. -/
theorem suffix_of_concat {before z : List Char} {d : Char} {ws : List (List Char)}
    (hend : before.rdropWhile isSpaceChar = before) (hws : ws <:+ words before) (hws' : ws ≠ [])
    (h : before = z ++ joinWords ws ++ [d]) : joinWords ws <:+ before := by
  have hne : before ≠ [] := by rw [h]; simp
  obtain ⟨vs, hvs⟩ := eq_concat_lastWord hne hend hws hws'
  have hd : isSpaceChar d = false := by
    rw [h] at hend
    exact notSpace_of_concat hend
  have hjoin : joinWords ws =
      if vs = [] then lastWord before else joinWords vs ++ ' ' :: lastWord before := by
    rw [← joinWords_concat, ← hvs]
  split at hjoin
  · rw [hjoin]
    exact List.rtakeWhile_suffix _ _
  · exfalso
    have hword : ∀ c ∈ lastWord before ++ [d], isSpaceChar c = false := by
      intro c hc
      rcases List.mem_append.mp hc with hc | hc
      · simpa using List.mem_rtakeWhile_imp hc
      · rw [List.mem_singleton.mp hc]
        exact hd
    have hbefore : before = (z ++ joinWords vs) ++ ' ' :: (lastWord before ++ [d]) := by
      rw [hjoin] at h
      simpa using h
    have hlast := lastWord_append hword (z ++ joinWords vs)
    rw [← hbefore] at hlast
    simpa using congrArg List.length hlast

/-- **The search for a label** put together from the last words finds it only right at the end. -/
theorem indexFrom_eq_none_iff {before : List Char} {ws : List (List Char)}
    (hend : before.rdropWhile isSpaceChar = before) (hws : ws <:+ words before) (hws' : ws ≠ []) :
    indexFrom (joinWords ws) before (before.length - (joinWords ws).length - 1) = none ↔
      ¬joinWords ws <:+ before := by
  set start := before.length - (joinWords ws).length - 1 with hstart
  unfold indexFrom
  rw [Option.map_eq_none_iff, findChars_eq_none_iff, not_iff_not]
  constructor
  · rintro ⟨x, y, hxy⟩
    have hbefore : before = before.take start ++ (x ++ joinWords ws ++ y) := by
      rw [hxy, List.take_append_drop]
    have hlength := congrArg List.length hxy
    simp only [List.length_append, List.length_drop] at hlength
    rcases List.eq_nil_or_concat' y with rfl | ⟨y', d, rfl⟩
    · rw [hbefore]
      exact ⟨before.take start ++ x, by simp⟩
    · -- one character at most is left behind the label
      have hy' : y' = [] := by
        apply List.eq_nil_of_length_eq_zero
        simp only [List.length_append, List.length_singleton] at hlength
        omega
      subst hy'
      apply suffix_of_concat hend hws hws' (z := before.take start ++ x) (d := d)
      rw [List.nil_append] at hbefore
      simpa using hbefore
  · rintro ⟨x, hx⟩
    have hlength := congrArg List.length hx
    rw [List.length_append] at hlength
    refine ⟨x.drop start, [], ?_⟩
    rw [List.append_nil, ← List.drop_append_of_le_length (by omega), hx]

theorem mem_tails_dropLast {α : Type*} {ws l : List α} :
    ws ∈ l.tails.dropLast ↔ ws <:+ l ∧ ws ≠ [] := by
  induction l with
  | nil => simp
  | cons a l ih =>
    have htails : l.tails ≠ [] := by cases l <;> simp
    rw [List.tails_cons, List.dropLast_cons_of_ne_nil htails, List.mem_cons, ih,
      List.suffix_cons_iff]
    constructor
    · rintro (rfl | ⟨h, hne⟩)
      · exact ⟨Or.inl rfl, by simp⟩
      · exact ⟨Or.inr h, hne⟩
    · rintro ⟨rfl | h, hne⟩
      · exact Or.inl rfl
      · exact Or.inr ⟨h, hne⟩

/-! ### The split at colons -/

/-- A label of the table right before a colon, whose words are not one blank apart. -/
def StretchedBefore (t : Tables) (before : List Char) : Prop :=
  ∃ ws ∈ (words before).tails.dropLast, '@' ∉ joinWords ws ∧
    (labelField (t.lower (joinWords ws))).isSome ∧ ¬joinWords ws <:+ before

/-- **A stretched label**: the line has two colons or more, and such a label before one. -/
def Stretched (t : Tables) (line : List Char) : Prop :=
  2 ≤ (colonPositions line).length ∧
    ∃ cp ∈ colonPositions line, StretchedBefore t (beforeColon line cp)

theorem bestLabel_error_iff {before : List Char} {wss : List (List (List Char))}
    {best : Option (List Char × Nat)} :
    (∃ e, bestLabel t before wss best = .error e) ↔
      ∃ ws ∈ wss, '@' ∉ joinWords ws ∧ (labelField (t.lower (joinWords ws))).isSome ∧
        indexFrom (joinWords ws) before (before.length - (joinWords ws).length - 1) = none := by
  induction wss generalizing best with
  | nil => simp [bestLabel]
  | cons ws more ih =>
    unfold bestLabel
    dsimp only
    by_cases hat : '@' ∈ joinWords ws
    · rw [if_pos hat, ih]
      simp [hat]
    · rw [if_neg hat]
      by_cases hlabel : (labelField (t.lower (joinWords ws))).isSome
      · rw [if_pos hlabel]
        cases hindex : indexFrom (joinWords ws) before
            (before.length - (joinWords ws).length - 1) with
        | none => exact iff_of_true ⟨_, rfl⟩ ⟨ws, List.mem_cons_self, hat, hlabel, hindex⟩
        | some start =>
          dsimp only
          rw [ih]
          simp [hindex]
      · rw [if_neg hlabel, ih]
        simp [hlabel]

theorem bestLabel_words_error_iff {before : List Char}
    (hend : before.rdropWhile isSpaceChar = before) :
    (∃ e, bestLabel t before ((words before).tails.dropLast) none = .error e) ↔
      StretchedBefore t before := by
  rw [bestLabel_error_iff]
  apply exists_congr
  intro ws
  apply and_congr_right
  intro hws
  obtain ⟨hsuffix, hne⟩ := mem_tails_dropLast.mp hws
  rw [indexFrom_eq_none_iff hend hsuffix hne]

/-- There are no words before a colon at the beginning. -/
theorem not_stretchedBefore_nil : ¬StretchedBefore t [] := by
  rintro ⟨ws, hws, -⟩
  simp [words] at hws

theorem pairStarts_error_iff {line : List Char} {cps : List Nat} :
    (∃ e, pairStarts t line cps = .error e) ↔
      ∃ cp ∈ cps, StretchedBefore t (beforeColon line cp) := by
  induction cps with
  | nil => simp [pairStarts]
  | cons cp more ih =>
    have hend : (beforeColon line cp).rdropWhile isSpaceChar = beforeColon line cp :=
      List.rdropWhile_idempotent ..
    have hbest := bestLabel_words_error_iff (t := t) hend
    unfold pairStarts
    dsimp only
    rw [List.exists_mem_cons_iff]
    by_cases hnil : beforeColon line cp = []
    · rw [if_pos hnil, ih, hnil, or_iff_right not_stretchedBefore_nil]
    · rw [if_neg hnil]
      cases hlabel : bestLabel t (beforeColon line cp)
          ((words (beforeColon line cp)).tails.dropLast) none with
      | error e => exact iff_of_true ⟨e, rfl⟩ (Or.inl (hbest.mp ⟨e, hlabel⟩))
      | ok best =>
        have hnot : ¬StretchedBefore t (beforeColon line cp) := by
          rw [← hbest, hlabel]
          rintro ⟨e, he⟩
          cases he
        rw [or_iff_right hnot, ← ih]
        cases hmore : pairStarts t line more with
        | error e => exact iff_of_true ⟨e, rfl⟩ ⟨e, rfl⟩
        | ok starts =>
          apply iff_of_false
          · rintro ⟨e, he⟩
            cases best <;> cases he
          · rintro ⟨e, he⟩
            cases he

/-- **The colon split** fails exactly on a stretched label. -/
theorem splitColonPairs_error_iff {line : List Char} :
    (∃ e, splitColonPairs t line = .error e) ↔ Stretched t line := by
  unfold splitColonPairs Stretched
  dsimp only
  by_cases hcolons : (colonPositions line).length < 2
  · rw [if_pos hcolons]
    apply iff_of_false not_error
    exact fun h => Nat.not_le_of_lt hcolons h.1
  · rw [if_neg hcolons, and_iff_right (Nat.le_of_not_lt hcolons), ← pairStarts_error_iff]
    cases hstarts : pairStarts t line (colonPositions line) with
    | error e => exact iff_of_true ⟨e, rfl⟩ ⟨e, rfl⟩
    | ok starts =>
      apply iff_of_false
      · rintro ⟨e, he⟩
        dsimp only at he
        split at he <;> cases he
      · rintro ⟨e, he⟩
        cases he

/-! ### One step of the labelled pass -/

/-- **The step hands its line to the colon split**: nothing before took the line, and it has a
label without an `@`. -/
def Splits (t : Tables) (raw : List Char) (rest : List (List Char)) (p : Pass) : Prop :=
  lineKind t (stripChars raw) p = .plain ∧
    (∃ rest', arrowStep t (stripChars raw) rest p = .ok (.goOn rest')) ∧
    ∃ label value, colonRe (stripChars raw) = some (label, value) ∧ '@' ∉ stripChars label

variable {raw line : List Char} {rest rest' : List (List Char)} {p p' : Pass}

theorem arrowStep_ok : ∃ o, arrowStep t line rest p = .ok o := by
  unfold arrowStep
  split
  · exact ⟨_, rfl⟩
  · obtain ⟨r, hr⟩ := splitArrowPairs_ok (t := t) line
    rw [hr]
    cases r with
    | some pairs => exact ⟨_, rfl⟩
    | none =>
      dsimp only
      split <;> exact ⟨_, rfl⟩

theorem colonStep_error_iff {label value : List Char} :
    (∃ e, colonStep t line label value rest p = .error e) ↔ '@' ∉ label ∧ Stretched t line := by
  unfold colonStep
  by_cases hat : '@' ∈ label
  · rw [if_pos hat]
    apply iff_of_false not_error
    exact fun h => h.1 hat
  · rw [if_neg hat, and_iff_right hat, ← splitColonPairs_error_iff]
    cases hsplit : splitColonPairs t line with
    | error e => exact iff_of_true ⟨e, rfl⟩ ⟨e, rfl⟩
    | ok r =>
      apply iff_of_false
      · rintro ⟨e, he⟩
        cases r with
        | none => cases he
        | some pairs =>
          dsimp only at he
          split at he <;> cases he
      · rintro ⟨e, he⟩
        cases he

/-- **A step fails** exactly where it hands over a line with a stretched label. -/
theorem labeledStep_error_iff :
    (∃ e, labeledStep t raw rest p = .error e) ↔
      Splits t raw rest p ∧ Stretched t (stripChars raw) := by
  unfold labeledStep Splits
  dsimp only
  cases hkind : lineKind t (stripChars raw) p with
  | plain =>
    obtain ⟨o, ho⟩ : ∃ o, arrowStep t (stripChars raw) rest p = .ok o := arrowStep_ok
    rw [ho]
    cases o with
    | done p' rest' =>
      apply iff_of_false not_error
      rintro ⟨⟨-, ⟨rest'', h⟩, -⟩, -⟩
      cases h
    | goOn rest' =>
      dsimp only
      cases hcolon : colonRe (stripChars raw) with
      | none =>
        apply iff_of_false not_error
        rintro ⟨⟨-, -, label, value, h, -⟩, -⟩
        cases h
      | some lv =>
        obtain ⟨label, value⟩ := lv
        dsimp only
        rw [colonStep_error_iff]
        apply and_congr_left'
        constructor
        · exact fun hat => ⟨rfl, ⟨rest', rfl⟩, label, value, rfl, hat⟩
        · rintro ⟨-, -, label', value', h, hat⟩
          cases h
          exact hat
  | blank | skipped | instruction | security hit | header name =>
    apply iff_of_false not_error
    rintro ⟨⟨h, -⟩, -⟩
    cases h

theorem headerStep_rest (name : List Char) : (headerStep t name rest p).2 <:+ rest := by
  unfold headerStep
  split
  · exact List.nil_suffix
  · next pairLine more hmore =>
    have hsuffix : (pairLine :: more) <:+ rest := by
      rw [← hmore]
      exact List.dropWhile_suffix _
    exact (List.suffix_cons pairLine more).trans hsuffix

theorem arrowStep_rest {o : ArrowOutcome} (h : arrowStep t line rest p = .ok o) :
    (match o with | .done _ r => r | .goOn r => r) <:+ rest := by
  unfold arrowStep at h
  split at h
  · cases h
    exact List.suffix_refl rest
  · split at h
    · cases h
    · cases h
      exact List.suffix_refl rest
    · dsimp only at h
      split at h
      all_goals
        cases h
        dsimp only
        split
        · exact List.tail_suffix rest
        · exact List.suffix_refl rest

theorem labelStep_rest {label value : List Char} :
    (labelStep t line label value rest p).2 <:+ rest := by
  unfold labelStep
  split
  · exact List.suffix_refl rest
  · split
    · exact List.suffix_refl rest
    · unfold emptyValueStep
      dsimp only
      split
      all_goals split_ifs
      all_goals first | exact List.tail_suffix rest | exact List.suffix_refl rest

theorem colonStep_rest {label value : List Char}
    (h : colonStep t line label value rest p = .ok (p', rest')) : rest' <:+ rest := by
  unfold colonStep at h
  split at h
  · cases h
    exact List.suffix_refl rest
  · split at h
    · cases h
    · split at h
      · cases h
        exact List.suffix_refl rest
      · have hstep := congrArg Prod.snd (Except.ok.inj h)
        rw [← show _ = rest' from hstep]
        exact labelStep_rest
    · have hstep := congrArg Prod.snd (Except.ok.inj h)
      rw [← show _ = rest' from hstep]
      exact labelStep_rest

theorem bareStep_rest : (bareStep t line rest p).2 <:+ rest := by
  unfold bareStep
  split
  · split <;> exact List.suffix_refl rest
  · dsimp only
    split
    · exact List.tail_suffix rest
    · split
      · exact List.suffix_refl rest
      · split
        · exact List.suffix_refl rest
        · split
          · split <;> exact List.suffix_refl rest
          · split <;> exact List.suffix_refl rest

/-- What a step leaves is the end of what it was given. -/
theorem labeledStep_rest (h : labeledStep t raw rest p = .ok (p', rest')) : rest' <:+ rest := by
  unfold labeledStep at h
  dsimp only at h
  split at h
  · cases h
    exact List.suffix_refl rest
  · cases h
    exact List.suffix_refl rest
  · cases h
    exact List.suffix_refl rest
  · cases h
    exact List.suffix_refl rest
  · next name hkind =>
    have hstep := congrArg Prod.snd (Except.ok.inj h)
    rw [← show _ = rest' from hstep]
    exact headerStep_rest name
  · split at h
    · cases h
    · next p'' rest'' harrow =>
      cases h
      exact arrowStep_rest harrow
    · next rest'' harrow =>
      have hrest : rest'' <:+ rest := arrowStep_rest harrow
      split at h
      · exact (colonStep_rest h).trans hrest
      · have hstep := congrArg Prod.snd (Except.ok.inj h)
        rw [← show _ = rest' from hstep]
        exact bareStep_rest.trans hrest

/-! ### The whole pass -/

/-- One round of the loop: from a state and the lines that are left to the next. -/
def Steps (t : Tables) (c c' : Pass × List (List Char)) : Prop :=
  ∃ raw rest, c.2 = raw :: rest ∧ labeledStep t raw rest c.1 = .ok c'

/-- The rounds of the loop so far. -/
abbrev Reaches (t : Tables) : Pass × List (List Char) → Pass × List (List Char) → Prop :=
  Relation.ReflTransGen (Steps t)

/-- A line that the pass from here on hands to the colon split. -/
def Hands (t : Tables) (c : Pass × List (List Char)) (line : List Char) : Prop :=
  ∃ p raw rest, Reaches t c (p, raw :: rest) ∧ Splits t raw rest p ∧ line = stripChars raw

/-- **The pass fails** exactly where some line that it hands to the split has a stretched label.
The induction is on the rounds that are left, for which the lines are enough. -/
theorem labeledLoop_error_iff {n : Nat} {lines : List (List Char)} (hn : lines.length ≤ n) :
    (∃ e, labeledLoop t n lines p = .error e) ↔
      ∃ line, Hands t (p, lines) line ∧ Stretched t line := by
  induction n generalizing lines p with
  | zero =>
    obtain rfl := List.eq_nil_of_length_eq_zero (Nat.le_zero.mp hn)
    apply iff_of_false not_error
    rintro ⟨line, ⟨p', raw, rest, hreach, -⟩, -⟩
    obtain h | ⟨c, ⟨raw', rest', h, -⟩, -⟩ := hreach.cases_head
    · cases h
    · cases h
  | succ n ih =>
    cases lines with
    | nil =>
      apply iff_of_false not_error
      rintro ⟨line, ⟨p', raw, rest, hreach, -⟩, -⟩
      obtain h | ⟨c, ⟨raw', rest', h, -⟩, -⟩ := hreach.cases_head
      · cases h
      · cases h
    | cons raw rest =>
      have hfail : (∃ e, labeledStep t raw rest p = .error e) ↔ _ := labeledStep_error_iff
      unfold labeledLoop
      cases hstep : labeledStep t raw rest p with
      | error e =>
        obtain ⟨hsplits, hstretched⟩ := hfail.mp ⟨e, hstep⟩
        refine iff_of_true ⟨e, rfl⟩ ⟨stripChars raw, ⟨p, raw, rest, ?_, hsplits, rfl⟩, hstretched⟩
        exact Relation.ReflTransGen.refl
      | ok c =>
        obtain ⟨p', rest'⟩ := c
        have hlength := (labeledStep_rest hstep).length_le
        dsimp only
        rw [ih (le_trans hlength (Nat.le_of_succ_le_succ hn))]
        constructor
        · rintro ⟨line, ⟨q, raw', rest'', hreach, hsplits, hline⟩, hstretched⟩
          refine ⟨line, ⟨q, raw', rest'', ?_, hsplits, hline⟩, hstretched⟩
          exact hreach.head ⟨raw, rest, rfl, hstep⟩
        · rintro ⟨line, ⟨q, raw', rest'', hreach, hsplits, hline⟩, hstretched⟩
          obtain h | ⟨c, ⟨raw₁, rest₁, h, hstep'⟩, hreach'⟩ := hreach.cases_head
          · -- this very step would fail
            cases h
            rw [hline] at hstretched
            obtain ⟨e, he⟩ := hfail.mpr ⟨hsplits, hstretched⟩
            rw [hstep] at he
            cases he
          · cases h
            rw [hstep] at hstep'
            cases hstep'
            exact ⟨line, ⟨q, raw', rest'', hreach', hsplits, hline⟩, hstretched⟩

/-- The lines that are left are the end of the text. -/
theorem Reaches.suffix {c c' : Pass × List (List Char)} (h : Reaches t c c') : c'.2 <:+ c.2 := by
  induction h with
  | refl => exact List.suffix_refl _
  | tail _ hstep ih =>
    obtain ⟨raw, rest, h, hstep⟩ := hstep
    rw [h] at ih
    exact (labeledStep_rest hstep).trans ((List.suffix_cons raw rest).trans ih)

/-- The lines that a pass hands over are lines it was given. -/
theorem Hands.mem {lines : List (List Char)} (h : Hands t (p, lines) line) :
    ∃ raw ∈ lines, line = stripChars raw := by
  obtain ⟨q, raw, rest, hreach, -, hline⟩ := h
  exact ⟨raw, (Reaches.suffix hreach).subset List.mem_cons_self, hline⟩

theorem parseLabeled_error_iff {lines : List (List Char)} {result : ParsedCredentials} :
    (∃ e, parseLabeled t lines result = .error e) ↔
      ∃ line, Hands t ({ result := result }, lines) line ∧ Stretched t line := by
  rw [← labeledLoop_error_iff (le_refl lines.length)]
  unfold parseLabeled
  cases labeledLoop t lines.length lines { result := result } with
  | error e => exact iff_of_true ⟨e, rfl⟩ ⟨e, rfl⟩
  | ok p =>
    exact iff_of_false not_error not_error

/-! ### The parser -/

/-- The positional fallback is tried, with these fields: nothing was found, or what was found has
no login. -/
def FallsBack (t : Tables) (text : List Char) (result : ParsedCredentials) : Prop :=
  parseLabeled t (dedupLines text) {} = .ok (false, result) ∨
    ∃ labeled, parseLabeled t (dedupLines text) {} = .ok (true, labeled) ∧
      (postProcess t labeled).login = [] ∧ result = {}

/-- The text that the fallback gets, stripped. -/
def fallbackText (text : List Char) : List Char :=
  stripChars (joinChars ['\n'] (dedupLines text))

/-- **A labelled pass of a call**, by its lines and its fields: over the lines of the text, and in
the fallback over a text with tabs that has labels. -/
inductive LabeledPass (t : Tables) (text : List Char) :
    List (List Char) → ParsedCredentials → Prop
  | first : stripChars text ≠ [] → LabeledPass t text (dedupLines text) {}
  | fallback {result : ParsedCredentials} :
      stripChars text ≠ [] → FallsBack t text result → '\t' ∈ fallbackText text →
        hasLabels t (fallbackText text) = true →
        LabeledPass t text (tabLines (fallbackText text)) result

/-- A line that a call hands to the colon split. -/
def HandsToSplit (t : Tables) (text line : List Char) : Prop :=
  ∃ lines result, LabeledPass t text lines result ∧ Hands t ({ result := result }, lines) line

theorem parsePositional_error_iff {text : List Char} {result : ParsedCredentials} :
    (∃ e, parsePositional t text result = .error e) ↔
      '\t' ∈ stripChars text ∧ hasLabels t (stripChars text) = true ∧
        ∃ e, parseLabeled t (tabLines (stripChars text)) result = .error e := by
  unfold parsePositional
  dsimp only
  by_cases htab : '\t' ∈ stripChars text
  · rw [if_pos htab, and_iff_right htab]
    by_cases hlabels : hasLabels t (stripChars text) = true
    · rw [if_pos hlabels, and_iff_right hlabels]
      rcases parseLabeled t (tabLines (stripChars text)) result with e | ⟨found, r⟩
      · exact iff_of_true ⟨e, rfl⟩ ⟨e, rfl⟩
      · apply iff_of_false
        · rintro ⟨e, he⟩
          cases found <;> cases he
        · rintro ⟨e, he⟩
          cases he
    · rw [if_neg hlabels]
      apply iff_of_false not_error
      exact fun h => hlabels h.1
  · rw [if_neg htab]
    apply iff_of_false not_error
    exact fun h => htab h.1

theorem map_error_iff {α β : Type} {f : α → β} {x : Except PyError α} :
    (∃ e, x.map f = .error e) ↔ ∃ e, x = .error e := by
  cases x with
  | error e => exact iff_of_true ⟨e, rfl⟩ ⟨e, rfl⟩
  | ok a =>
    exact iff_of_false not_error not_error

variable {text : List Char}

/-- A call that gets through the first pass fails in the fallback or not at all. -/
theorem stretched_iff_fallback (hne : stripChars text ≠ []) {x : Bool × ParsedCredentials}
    (h : parseLabeled t (dedupLines text) {} = .ok x) :
    (∃ line, HandsToSplit t text line ∧ Stretched t line) ↔
      ∃ result, FallsBack t text result ∧
        ∃ e, parsePositional t (joinChars ['\n'] (dedupLines text)) result = .error e := by
  constructor
  · rintro ⟨line, ⟨lines, result, hpass, hhands⟩, hstretched⟩
    have hfails := parseLabeled_error_iff.mpr ⟨line, hhands, hstretched⟩
    cases hpass with
    | first =>
      rw [h] at hfails
      obtain ⟨e, he⟩ := hfails
      cases he
    | fallback _ hfalls htab hlabels =>
      exact ⟨result, hfalls, parsePositional_error_iff.mpr ⟨htab, hlabels, hfails⟩⟩
  · rintro ⟨result, hfalls, hfails⟩
    obtain ⟨htab, hlabels, hfails⟩ := parsePositional_error_iff.mp hfails
    obtain ⟨line, hhands, hstretched⟩ := parseLabeled_error_iff.mp hfails
    exact ⟨line, ⟨_, result, .fallback hne hfalls htab hlabels, hhands⟩, hstretched⟩

theorem parseCredentialsText_error_iff :
    (∃ e, parseCredentialsText t text = .error e) ↔
      ∃ line, HandsToSplit t text line ∧ Stretched t line := by
  unfold parseCredentialsText
  by_cases hne : stripChars text = []
  · rw [if_pos hne]
    apply iff_of_false not_error
    rintro ⟨line, ⟨lines, result, hpass, -⟩, -⟩
    cases hpass with
    | first h => exact h hne
    | fallback h => exact h hne
  · rw [if_neg hne]
    dsimp only
    cases hfirst : parseLabeled t (dedupLines text) {} with
    | error e =>
      obtain ⟨line, hhands, hstretched⟩ := parseLabeled_error_iff.mp ⟨e, hfirst⟩
      exact iff_of_true ⟨e, rfl⟩ ⟨line, ⟨_, {}, .first hne, hhands⟩, hstretched⟩
    | ok x =>
      rw [stretched_iff_fallback hne hfirst]
      obtain ⟨found, labeled⟩ := x
      cases found with
      | false =>
        dsimp only
        rw [map_error_iff]
        constructor
        · exact fun hfails => ⟨labeled, Or.inl hfirst, hfails⟩
        · rintro ⟨result, hfalls | ⟨labeled', hfalls, -⟩, hfails⟩
          · rw [hfirst] at hfalls
            cases hfalls
            exact hfails
          · rw [hfirst] at hfalls
            cases hfalls
      | true =>
        dsimp only
        split
        · next hlogin =>
          apply iff_of_false not_error
          rintro ⟨result, hfalls | ⟨labeled', hfalls, hempty, -⟩, -⟩
          · rw [hfirst] at hfalls
            cases hfalls
          · rw [hfirst] at hfalls
            cases hfalls
            exact hlogin hempty
        · next hlogin =>
          rw [map_error_iff]
          constructor
          · exact fun hfails => ⟨{}, Or.inr ⟨labeled, hfirst, not_not.mp hlogin, rfl⟩, hfails⟩
          · rintro ⟨result, hfalls | ⟨labeled', hfalls, -, rfl⟩, hfails⟩
            · rw [hfirst] at hfalls
              cases hfalls
            · exact hfails

/-- **`parse_credentials_text` returns** exactly if no line that it hands to the colon split has a
stretched label. -/
theorem parse_credentials_text_total_iff (t : Tables) (text : List Char) :
    (∃ r, parseCredentialsText t text = .ok r) ↔
      ∀ line, HandsToSplit t text line → ¬Stretched t line := by
  have hfails : (∃ e, parseCredentialsText t text = .error e) ↔ _ :=
    parseCredentialsText_error_iff
  constructor
  · rintro ⟨r, hr⟩ line hhands hstretched
    obtain ⟨e, he⟩ := hfails.mpr ⟨line, hhands, hstretched⟩
    rw [hr] at he
    cases he
  · intro h
    cases hparse : parseCredentialsText t text with
    | ok r => exact ⟨r, rfl⟩
    | error e =>
      obtain ⟨line, hhands, hstretched⟩ := hfails.mp ⟨e, hparse⟩
      exact absurd hstretched (h line hhands)

/-- The tables of ASCII. -/
def asciiTables : Tables where
  toUnicode := Posting.TrackingCode.asciiTable
  lower x := x.map Char.toLower
  lower_ascii _ _ := rfl
  lower_blank x y := by simp

/-- Two blanks between the words of a label, behind another label on the same line. -/
theorem parse_credentials_text_total_fails :
    ¬∃ r, parseCredentialsText asciiTables "email: a mail  password: b".toList = .ok r := by
  have hfails : parseCredentialsText asciiTables "email: a mail  password: b".toList =
      .error (.valueError "substring not found") := by
    decide +kernel
  rintro ⟨r, hr⟩
  rw [hfails] at hr
  cases hr

/-- A text whose lines have no stretched label, cut at tabs or not, is parsed. -/
theorem parse_of_unstretched
    (h : ∀ raw ∈ dedupLines text ++ tabLines (fallbackText text), ¬Stretched t (stripChars raw)) :
    ∃ r, parseCredentialsText t text = .ok r := by
  cases hparse : parseCredentialsText t text with
  | ok r => exact ⟨r, rfl⟩
  | error e =>
    obtain ⟨line, ⟨lines, result, hpass, hhands⟩, hstretched⟩ :=
      parseCredentialsText_error_iff.mp ⟨e, hparse⟩
    obtain ⟨raw, hraw, rfl⟩ := hhands.mem
    cases hpass with
    | first => exact absurd hstretched (h raw (List.mem_append_left _ hraw))
    | fallback => exact absurd hstretched (h raw (List.mem_append_right _ hraw))

end Sda.Sync.CredentialText
