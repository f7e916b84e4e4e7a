/-
Sda/Sdk/DeliveryLoss.lean

What the conversion of a delivery entry loses.

Every line ends in a field or is left over (`line_cases`).  The lines left over all reach the buyer,
and so do the login, the password and an email with a password of its own; of half an email the
conversion makes lines for the buyer.  Only the login link has no such way out: it is dropped where
the entry has neither an email nor its password.

Main results: `shows_value` — what every other line says is in the detail; `conversion_lossless_iff`
— when nothing is lost at all.
-/
import Sda.Sdk.CredentialFingerprint

namespace Sda.DeliveryDetails

open Templates (Python asciiPython)

variable (py : Python)

/-! ### Statement -/

/-- The parts of a detail in which the buyer finds a text. -/
def shownPaths : List (List String) :=
  [["accountDetails", "accountLogin"], ["accountDetails", "accountPassword"],
    ["emailDetails", "emailLogin"], ["emailDetails", "emailPassword"],
    ["emailDetails", "emailProviderUrl"], ["additionalInfo"]]

/-- The text stands in the account, in the email or in the additional information. -/
def Shows (detail : Json) (value : List Char) : Prop :=
  ∃ path ∈ shownPaths, ∃ text, detail.at_ path = .str text ∧ value <:+: text

/-- The value of a line: what is behind its label, or all of it. -/
def lineValue (line : List Char) : List Char :=
  match labelLine (stripChars line) with
  | some (_, value) => value
  | none => stripChars line

/-- The lines of an entry. -/
def linesOf (text : List Char) : List (List Char) := (stripChars text).splitOnP isLineBreak

/-- **Nothing is lost**: the value of every line that is neither blank nor a header is in the
detail. -/
def Lossless (text : List Char) (detail : Json) : Prop :=
  ∀ line ∈ linesOf text, IsContent py line → Shows detail (lineValue line)

/-- The lines for the buyer fit the limit on the additional information. -/
def InfoFits (text : List Char) : Prop := (infoOf py (secretOf py text)).length ≤ additionalInfoMax

/-- Behind these lines, no field takes the line. -/
structure Left (pre : List (List Char)) (line : List Char) : Prop where
  content : IsContent py line
  taken : ∀ g value, named py (sectionAfter py pre) line = some (g, value) → Given py g pre

/-- What an entry without an email keeps of a line: the login, the password, or all of a line that
no field takes. -/
inductive Keeps (pre : List (List Char)) (line : List Char) : List Char → Prop
  | value (f : SecretField) (hf : f = .login ∨ f = .password) (value : List Char)
    (h : Gives py f value pre line) (hfirst : ¬Given py f pre) : Keeps pre line value
  | line (h : Left py pre line) : Keeps pre line (stripChars line)

/-- The value stands in what is kept of some line. -/
def Kept (lines : List (List Char)) (value : List Char) : Prop :=
  ∃ pre line post text, lines = pre ++ line :: post ∧ Keeps py pre line text ∧ value <:+: text

/-- The login link has a way to the buyer: with an email or its password, or in another line. -/
def LinkKept (text : List Char) : Prop :=
  Given py .email (linesOf text) ∨ Given py .emailPassword (linesOf text) ∨
    ∀ pre link post value, linesOf text = pre ++ link :: post → Gives py .emailUrl value pre link →
      ¬Given py .emailUrl pre → Kept py (linesOf text) value

variable {py}

/-! ### Texts inside texts -/

theorem infix_stripChars {w x : List Char} (hw : stripChars w = w) (h : w <:+: x) :
    w <:+: stripChars x := by
  obtain ⟨a, b, rfl⟩ := h
  rcases eq_or_ne w [] with rfl | hne
  · exact List.nil_infix
  have hback := stripped_back hw
  have hcut : ∃ b', (w ++ b).rdropWhile isSpaceChar = w ++ b' := by
    induction b using List.reverseRecOn with
    | nil => exact ⟨[], by simpa using hback⟩
    | append_singleton b c ih =>
      rw [← List.append_assoc]
      by_cases hc : isSpaceChar c = true
      · rw [List.rdropWhile_concat_pos _ _ _ hc]
        exact ih
      · exact ⟨b ++ [c], by rw [List.rdropWhile_concat_neg _ _ _ hc, List.append_assoc]⟩
  obtain ⟨b', hb'⟩ := hcut
  have hhead : (w ++ b).head?.any (fun c => !isSpaceChar c) = true := by
    have hfront : w.dropWhile isSpaceChar = w := by
      rw [← hw]
      exact dropWhile_rdropWhile isSpaceChar w
    rw [dropWhile_eq_iff_head] at hfront
    cases w with
    | nil => exact absurd rfl hne
    | cons c w => simpa using hfront
  refine ⟨a.dropWhile isSpaceChar, b', ?_⟩
  rw [List.append_assoc a, stripChars_append a hhead, hb', List.append_assoc]

theorem infix_of_stripChars {w x : List Char} (h : w <:+: stripChars x) : w <:+: x :=
  (h.trans (List.rdropWhile_prefix _ _).isInfix).trans (List.dropWhile_suffix _).isInfix

theorem infix_joinChars {ls : List (List Char)} {l w : List Char} (hl : l ∈ ls) (h : w <:+: l) :
    w <:+: joinChars ['\n'] ls := by
  induction ls with
  | nil => cases hl
  | cons x xs ih =>
    obtain ⟨rest, hrest, -⟩ := joinChars_cons x xs
    rcases List.mem_cons.mp hl with rfl | hl
    · rw [hrest]
      exact h.trans (List.prefix_append l rest).isInfix
    · have hne : xs ≠ [] := List.ne_nil_of_mem hl
      rw [joinChars, List.intercalate_cons_of_ne_nil hne]
      exact List.infix_append_of_infix_right (ih hl)

theorem infix_of_line {x y w : List Char} (hw : '\n' ∉ w) (h : w <:+: x ++ '\n' :: y) :
    w <:+: x ∨ w <:+: y := by
  obtain ⟨a, b, h⟩ := h
  rcases List.append_eq_append_iff.mp h with ⟨c, hx, -⟩ | ⟨c, haw, hrest⟩
  · left
    rw [hx]
    exact List.infix_append_of_infix_left (List.suffix_append a w).isInfix
  · cases c with
    | nil =>
      left
      rw [List.append_nil] at haw
      rw [← haw]
      exact (List.suffix_append a w).isInfix
    | cons d c =>
      right
      obtain ⟨rfl, hy⟩ := List.cons.inj hrest
      have hsplit : a ++ w = (x ++ ['\n']) ++ c := by simpa using haw
      have hsuffix : w <:+ c := by
        rcases List.append_eq_append_iff.mp hsplit with ⟨e, hxe, hwe⟩ | ⟨e, -, hce⟩
        · rcases List.eq_nil_or_concat e with rfl | ⟨e, last, rfl⟩
          · rw [hwe]
            exact List.suffix_refl c
          · have hlast : last = '\n' := by
              rw [List.concat_eq_append, ← List.append_assoc] at hxe
              exact (List.cons.inj (List.append_inj' hxe rfl).2).1.symm
            exact absurd (by rw [hwe, hlast]; simp) hw
        · rw [hce]
          exact List.suffix_append e w
      rw [hy]
      exact List.infix_append_of_infix_left hsuffix.isInfix

/-- A text on one line that stands in joined lines stands in one of them. -/
theorem infix_of_joinChars {ls : List (List Char)} {w : List Char} (hw : '\n' ∉ w) (hne : w ≠ [])
    (h : w <:+: joinChars ['\n'] ls) : ∃ l ∈ ls, w <:+: l := by
  induction ls with
  | nil => exact absurd (List.infix_nil.mp h) hne
  | cons x xs ih =>
    rcases eq_or_ne xs [] with rfl | hxs
    · exact ⟨x, List.mem_cons_self, by simpa [joinChars] using h⟩
    · have hjoin : joinChars ['\n'] (x :: xs) = x ++ '\n' :: joinChars ['\n'] xs :=
        unlines_cons hxs x
      rw [hjoin] at h
      rcases infix_of_line hw h with h | h
      · exact ⟨x, List.mem_cons_self, h⟩
      · obtain ⟨l, hl, hwl⟩ := ih h
        exact ⟨l, List.mem_cons_of_mem x hl, hwl⟩

/-! ### Where the lines go -/

/-- The lines left over are those that no field takes. -/
theorem mem_leftovers_iff (lines : List (List Char)) (l : List Char) :
    l ∈ (lines.foldl (secretStep py) {}).leftovers ↔
      ∃ pre line post, lines = pre ++ line :: post ∧ Left py pre line ∧ stripChars line = l := by
  induction lines using List.reverseRecOn with
  | nil => simp
  | append_singleton lines line ih =>
    have hconcat : (∃ pre line' post, lines ++ [line] = pre ++ line' :: post ∧ Left py pre line' ∧
        stripChars line' = l) ↔ (∃ pre line' post, lines = pre ++ line' :: post ∧
          Left py pre line' ∧ stripChars line' = l) ∨ (Left py lines line ∧ stripChars line = l) := by
      constructor
      · rintro ⟨pre, line', post, hlines, hleft, hl⟩
        rcases List.eq_nil_or_concat post with rfl | ⟨post, last, rfl⟩
        · obtain ⟨rfl, hline⟩ := List.append_inj' hlines rfl
          cases hline
          exact Or.inr ⟨hleft, hl⟩
        · rw [List.concat_eq_append, ← List.cons_append, ← List.append_assoc] at hlines
          obtain ⟨rfl, -⟩ := List.append_inj' hlines rfl
          exact Or.inl ⟨pre, line', post, rfl, hleft, hl⟩
      · rintro (⟨pre, line', post, rfl, hleft, hl⟩ | ⟨hleft, hl⟩)
        · exact ⟨pre, line', post ++ [line], by simp, hleft, hl⟩
        · exact ⟨lines, line, [], rfl, hleft, hl⟩
    rw [hconcat, ← ih, List.foldl_append]
    show l ∈ (secretStep py _ line).leftovers ↔ _
    have hsect := sect_foldl py lines
    have hgiven : ∀ g, (lines.foldl (secretStep py) {}).get g ≠ [] ↔ Given py g lines :=
      fun g => get_foldl_ne_nil_iff lines
    generalize lines.foldl (secretStep py) {} = s at hsect hgiven ⊢
    rcases secretStep_cases py s line with
      ⟨hcontent, sect, hstep⟩ | ⟨hcontent, g, value, hnamed, hempty, hstep⟩ |
        ⟨hcontent, hleft, hstep⟩
    · rw [hstep]
      exact ⟨Or.inl, fun h => h.resolve_right fun h => hcontent h.1.content⟩
    · rw [hstep, Secret.leftovers_set]
      refine ⟨Or.inl, fun h => h.resolve_right fun h => ?_⟩
      exact (hgiven g).mpr (h.1.taken g value (hsect ▸ hnamed)) hempty
    · have hnow : Left py lines line :=
        ⟨hcontent, fun g value hg => (hgiven g).mp (hleft g value (hsect.symm ▸ hg))⟩
      rw [hstep, Secret.leftovers_leave, List.mem_append, List.mem_singleton]
      simp [hnow, eq_comm]

/-! ### What the buyer sees -/

section Shown

variable {s : Secret} {value : List Char}

theorem shows_login (h : value <:+: s.login) : Shows (detailOf py s) value :=
  ⟨["accountDetails", "accountLogin"], by simp [shownPaths], s.login, rfl, h⟩

theorem shows_password (h : value <:+: s.password) : Shows (detailOf py s) value :=
  ⟨["accountDetails", "accountPassword"], by simp [shownPaths], s.password, rfl, h⟩

/-- A value on one of the lines for the buyer is seen, if they fit. -/
theorem shows_info (hfits : (infoOf py s).length ≤ additionalInfoMax)
    (hstripped : stripChars value = value) {line : List Char} (hline : line ∈ (emailDetails py s).2)
    (h : value <:+: line) : Shows (detailOf py s) value := by
  rcases eq_or_ne value [] with rfl | hne
  · exact shows_login List.nil_infix
  have hinfo : value <:+: infoOf py s := infix_stripChars hstripped (infix_joinChars hline h)
  have hinfoNe : infoOf py s ≠ [] := by
    intro hnil
    rw [hnil] at hinfo
    exact hne (List.infix_nil.mp hinfo)
  refine ⟨["additionalInfo"], by simp [shownPaths], infoOf py s, ?_, hinfo⟩
  show (if (infoOf py s).take additionalInfoMax = [] then Json.null
    else .str ((infoOf py s).take additionalInfoMax)).at_ [] = _
  rw [List.take_of_length_le hfits, if_neg hinfoNe]
  rfl

/-- A labelled line for the buyer, for a value that is there. -/
def labeled (label : String) (value : List Char) : List (List Char) :=
  if value = [] then [] else [label.toList ++ value]

theorem mem_labeled (label : String) (h : value ≠ []) :
    label.toList ++ value ∈ labeled label value := by
  rw [labeled, if_neg h]
  exact List.mem_singleton_self _

/-- What the conversion makes of the email. -/
theorem emailDetails_cases (py : Python) (s : Secret) :
    (∃ url, url ≠ [] ∧ s.email ≠ [] ∧ s.emailPassword ≠ [] ∧
      providerUrl py s.email s.emailUrl = some url ∧ emailDetails py s =
        (.dict [("emailLogin", .str s.email), ("emailPassword", .str s.emailPassword),
          ("emailProviderUrl", .str url)], s.leftovers)) ∨
    (s.email = [] ∧ s.emailPassword = [] ∧ emailDetails py s = (.null, s.leftovers)) ∨
    ((s.email ≠ [] ∨ s.emailPassword ≠ []) ∧ emailDetails py s = (.null,
      labeled "Email: " s.email ++ labeled "Email Password: " s.emailPassword ++ s.leftovers ++
        labeled "Email Login Link: " s.emailUrl)) := by
  unfold emailDetails
  dsimp only
  split
  · next c₁ email c₂ password c url hemail hpassword hurl =>
    left
    have hne : s.email ≠ [] := by simp [hemail]
    rw [if_neg hne] at hurl
    exact ⟨c :: url, by simp, hne, by simp [hpassword], hurl, rfl⟩
  · next hemail hpassword =>
    right
    left
    exact ⟨hemail, hpassword, rfl⟩
  · next hnotBoth _ =>
    right
    right
    refine ⟨?_, rfl⟩
    by_contra hnone
    rw [not_or, not_not, not_not] at hnone
    exact hnotBoth hnone.1 hnone.2

/-- An explicit link stands in the address that is sent. -/
theorem providerUrl_explicit {email link url : List Char} (hlink : Stored link)
    (h : providerUrl py email link = some url) : link <:+: url := by
  unfold providerUrl at h
  rw [hlink.stripped] at h
  dsimp only at h
  rw [if_pos hlink.ne] at h
  cases h
  split
  · exact List.infix_refl _
  · exact (List.suffix_append _ _).isInfix

theorem left_mem_info {line : List Char} (h : line ∈ s.leftovers) :
    line ∈ (emailDetails py s).2 := by
  rcases emailDetails_cases py s with ⟨url, -, -, -, -, heq⟩ | ⟨-, -, heq⟩ | ⟨-, heq⟩
  · rw [heq]
    exact h
  · rw [heq]
    exact h
  · rw [heq]
    exact List.mem_append_left _ (List.mem_append_right _ h)

/-- **What a field holds is seen by the buyer**, the login link only with an email or its
password. -/
theorem shows_get (hfits : (infoOf py s).length ≤ additionalInfoMax) {f : SecretField}
    (hstored : Stored (s.get f)) (hlink : f = .emailUrl → s.email ≠ [] ∨ s.emailPassword ≠ []) :
    Shows (detailOf py s) (s.get f) := by
  have hsees : ∀ (label : List Char), label ++ s.get f ∈ (emailDetails py s).2 →
      Shows (detailOf py s) (s.get f) := fun label hline =>
    shows_info hfits hstored.stripped hline (List.suffix_append _ _).isInfix
  cases f with
  | login => exact shows_login (List.infix_refl _)
  | password => exact shows_password (List.infix_refl _)
  | email =>
    rcases emailDetails_cases py s with ⟨url, -, -, -, -, heq⟩ | ⟨hnil, -, -⟩ | ⟨-, heq⟩
    · refine ⟨["emailDetails", "emailLogin"], by simp [shownPaths], s.email, ?_, List.infix_refl _⟩
      show ((emailDetails py s).1).at_ ["emailLogin"] = _
      rw [heq]
      rfl
    · exact absurd hnil hstored.ne
    · refine hsees "Email: ".toList ?_
      rw [heq]
      exact List.mem_append_left _ (List.mem_append_left _ (List.mem_append_left _
        (mem_labeled "Email: " hstored.ne)))
  | emailPassword =>
    rcases emailDetails_cases py s with ⟨url, -, -, -, -, heq⟩ | ⟨-, hnil, -⟩ | ⟨-, heq⟩
    · refine ⟨["emailDetails", "emailPassword"], by simp [shownPaths], s.emailPassword, ?_,
        List.infix_refl _⟩
      show ((emailDetails py s).1).at_ ["emailPassword"] = _
      rw [heq]
      rfl
    · exact absurd hnil hstored.ne
    · refine hsees "Email Password: ".toList ?_
      rw [heq]
      exact List.mem_append_left _ (List.mem_append_left _ (List.mem_append_right _
        (mem_labeled "Email Password: " hstored.ne)))
  | emailUrl =>
    rcases emailDetails_cases py s with ⟨url, -, -, -, hurl, heq⟩ | ⟨hemail, hpassword, -⟩ |
      ⟨-, heq⟩
    · refine ⟨["emailDetails", "emailProviderUrl"], by simp [shownPaths], url, ?_,
        providerUrl_explicit hstored hurl⟩
      show ((emailDetails py s).1).at_ ["emailProviderUrl"] = _
      rw [heq]
      rfl
    · exact ((hlink rfl).elim (· hemail) (· hpassword)).elim
    · refine hsees "Email Login Link: ".toList ?_
      rw [heq]
      exact List.mem_append_right _ (mem_labeled "Email Login Link: " hstored.ne)

/-- Without an email, the buyer sees the login, the password and the lines left over. -/
theorem shows_iff_of_no_email (hfits : (infoOf py s).length ≤ additionalInfoMax)
    (hemail : s.email = []) (hpassword : s.emailPassword = []) (hstored : Stored value) :
    Shows (detailOf py s) value ↔
      value <:+: s.login ∨ value <:+: s.password ∨ ∃ line ∈ s.leftovers, value <:+: line := by
  have hdetails : emailDetails py s = (.null, s.leftovers) := by
    rcases emailDetails_cases py s with ⟨url, -, hne, -⟩ | ⟨-, -, heq⟩ | ⟨hne, -⟩
    · exact absurd hemail hne
    · exact heq
    · exact (hne.elim (· hemail) (· hpassword)).elim
  constructor
  · rintro ⟨path, hpath, text, htext, hvalue⟩
    simp only [shownPaths, List.mem_cons, List.not_mem_nil, or_false] at hpath
    have hnull : ∀ key, (detailOf py s).at_ ["emailDetails", key] = Json.null := by
      intro key
      show ((emailDetails py s).1).at_ [key] = _
      rw [hdetails]
      rfl
    rcases hpath with rfl | rfl | rfl | rfl | rfl | rfl
    · cases htext
      exact Or.inl hvalue
    · cases htext
      exact Or.inr (Or.inl hvalue)
    · rw [hnull] at htext
      cases htext
    · rw [hnull] at htext
      cases htext
    · rw [hnull] at htext
      cases htext
    · right
      right
      have hinfo : (if (infoOf py s).take additionalInfoMax = [] then Json.null
          else .str ((infoOf py s).take additionalInfoMax)) = .str text := htext
      split at hinfo
      · cases hinfo
      · cases hinfo
        rw [List.take_of_length_le hfits] at hvalue
        have hjoined := infix_of_stripChars hvalue
        rw [hdetails] at hjoined
        refine infix_of_joinChars ?_ hstored.ne hjoined
        intro hbreak
        have := hstored.oneLine _ hbreak
        revert this
        decide
  · rintro (h | h | ⟨line, hline, h⟩)
    · exact shows_login h
    · exact shows_password h
    · exact shows_info hfits hstored.stripped (left_mem_info hline) h

end Shown

/-! ### Nothing is lost -/

section Lossless

variable {text line value : List Char}

theorem lineValue_of_named {sect : Option Section} {f : SecretField}
    (h : named py sect line = some (f, value)) : lineValue line = value := by
  obtain ⟨label, hlabel⟩ := labelLine_of_named h
  unfold lineValue
  rw [hlabel]

theorem lineValue_infix (line : List Char) :
    stripChars (lineValue line) = lineValue line ∧ lineValue line <:+: stripChars line := by
  unfold lineValue
  cases hlabel : labelLine (stripChars line) with
  | none => exact ⟨stripChars_stripChars line, List.infix_refl _⟩
  | some labeled => exact labelLine_value hlabel

/-- Every line with content is left over, gives its field a first value, or has no value. -/
theorem line_cases (pre : List (List Char)) (h : IsContent py line) :
    Left py pre line ∨ lineValue line = [] ∨
      ∃ f, Gives py f (lineValue line) pre line ∧ ¬Given py f pre := by
  by_cases hleft : ∀ g value, named py (sectionAfter py pre) line = some (g, value) → Given py g pre
  · exact Or.inl ⟨h, hleft⟩
  · right
    push Not at hleft
    obtain ⟨g, value, hnamed, hfirst⟩ := hleft
    have hvalue : lineValue line = value := lineValue_of_named hnamed
    by_cases hempty : value = []
    · exact Or.inl (hvalue.trans hempty)
    · exact Or.inr ⟨g, ⟨h, hvalue ▸ hnamed, hvalue ▸ hempty⟩, hfirst⟩

/-- What is kept of a line is seen where there is no email. -/
theorem shows_of_kept (hfits : InfoFits py text) (hstored : Stored value)
    (hkept : Kept py (linesOf text) value) : Shows (detailOf py (secretOf py text)) value := by
  obtain ⟨pre, line, post, shown, hlines, hkeeps, hvalue⟩ := hkept
  cases hkeeps with
  | value f hf shown hgives hfirst =>
    have hget : (secretOf py text).get f = shown := by
      show ((linesOf text).foldl (secretStep py) {}).get f = shown
      rw [hlines]
      exact get_foldl_of_first post hgives hfirst
    rw [← hget] at hvalue
    rcases hf with rfl | rfl
    · exact shows_login hvalue
    · exact shows_password hvalue
  | line hleft =>
    refine shows_info hfits hstored.stripped (left_mem_info ?_) hvalue
    exact (mem_leftovers_iff _ _).mpr ⟨pre, line, post, hlines, hleft, rfl⟩

/-- And nothing else is. -/
theorem kept_of_shows (hfits : InfoFits py text) (hstored : Stored value)
    (hemail : (secretOf py text).email = []) (hpassword : (secretOf py text).emailPassword = [])
    (h : Shows (detailOf py (secretOf py text)) value) : Kept py (linesOf text) value := by
  have hfield : ∀ f, f = .login ∨ f = .password → value <:+: (secretOf py text).get f →
      Kept py (linesOf text) value := by
    intro f hf hvalue
    have hne : ((linesOf text).foldl (secretStep py) {}).get f ≠ [] := by
      intro hnil
      exact hstored.ne (List.infix_nil.mp (hnil ▸ hvalue))
    obtain ⟨pre, line, post, shown, hlines, hgives, hfirst⟩ :=
      ((get_foldl_ne_nil_iff _).mp hne).first
    refine ⟨pre, line, post, shown, hlines, .value f hf shown hgives hfirst, ?_⟩
    have hget := get_foldl_of_first post hgives hfirst
    rw [← hlines] at hget
    rw [← hget]
    exact hvalue
  rcases (shows_iff_of_no_email hfits hemail hpassword hstored).mp h with h | h | ⟨l, hl, h⟩
  · exact hfield .login (Or.inl rfl) h
  · exact hfield .password (Or.inr rfl) h
  · obtain ⟨pre, line, post, hlines, hleft, rfl⟩ := (mem_leftovers_iff (linesOf text) l).mp hl
    exact ⟨pre, line, post, _, hlines, .line hleft, h⟩

end Lossless

/-- **The conversion loses nothing exactly if the login link is kept**: for every text that is
converted and whose lines for the buyer fit. -/
theorem conversion_lossless_iff (py : Python) (text : List Char) (detail : Json)
    (h : secretTextToDeliveryDetail py text = some detail) (hfits : InfoFits py text) :
    Lossless py text detail ↔ LinkKept py text := by
  obtain ⟨-, -, rfl⟩ := secretText_eq_some_iff.mp h
  have hgiven : ∀ f, (secretOf py text).get f ≠ [] ↔ Given py f (linesOf text) :=
    fun f => get_foldl_ne_nil_iff (linesOf text)
  constructor
  · intro hlossless
    by_cases hemail : Given py .email (linesOf text)
    · exact Or.inl hemail
    by_cases hpassword : Given py .emailPassword (linesOf text)
    · exact Or.inr (Or.inl hpassword)
    refine Or.inr (Or.inr ?_)
    intro pre link post value hlines hgives hfirst
    have hget : (secretOf py text).get .emailUrl = value := by
      show ((linesOf text).foldl (secretStep py) {}).get .emailUrl = value
      rw [hlines]
      exact get_foldl_of_first post hgives hfirst
    have hstored : Stored value := by
      rw [← hget]
      apply stored_of_foldl
      show (secretOf py text).get .emailUrl ≠ []
      rw [hget]
      exact hgives.value_ne
    have hshows := hlossless link (by rw [hlines]; exact List.mem_append_right _ List.mem_cons_self)
      hgives.content
    rw [lineValue_of_named hgives.named] at hshows
    exact kept_of_shows hfits hstored (not_not.mp fun hne => hemail ((hgiven .email).mp hne))
      (not_not.mp fun hne => hpassword ((hgiven .emailPassword).mp hne)) hshows
  · intro hlink line hline hcontent
    obtain ⟨pre, post, hlines⟩ := List.append_of_mem hline
    rcases line_cases pre hcontent with hleft | hempty | ⟨f, hgives, hfirst⟩
    · obtain ⟨hstripped, hpart⟩ := lineValue_infix line
      refine shows_info hfits hstripped (left_mem_info ?_) hpart
      exact (mem_leftovers_iff _ _).mpr ⟨pre, line, post, hlines, hleft, rfl⟩
    · rw [hempty]
      exact shows_login List.nil_infix
    · have hget : (secretOf py text).get f = lineValue line := by
        show ((linesOf text).foldl (secretStep py) {}).get f = lineValue line
        rw [hlines]
        exact get_foldl_of_first post hgives hfirst
      have hstored : Stored ((secretOf py text).get f) := by
        apply stored_of_foldl
        show (secretOf py text).get f ≠ []
        rw [hget]
        exact hgives.value_ne
      by_cases hway : f = .emailUrl →
          (secretOf py text).email ≠ [] ∨ (secretOf py text).emailPassword ≠ []
      · rw [← hget]
        exact shows_get hfits hstored hway
      · push Not at hway
        obtain ⟨rfl, hemail, hpassword⟩ := hway
        rcases hlink with hgivenEmail | hgivenPassword | hkept
        · exact absurd hemail ((hgiven .email).mpr hgivenEmail)
        · exact absurd hpassword ((hgiven .emailPassword).mpr hgivenPassword)
        · rw [hget] at hstored
          exact shows_of_kept hfits hstored (hkept pre line post _ hlines hgives hfirst)

/-- An entry with a login link and an email. -/
def linkAndEmail : List Char :=
  "Login: kevin\nPassword: Secret1!\nEmail: kevin@mail.example\nProvider URL: mail.example".toList

theorem conversion_lossless_at_email :
    Lossless asciiPython linkAndEmail (detailOf asciiPython (secretOf asciiPython linkAndEmail)) ↔
      LinkKept asciiPython linkAndEmail :=
  conversion_lossless_iff asciiPython linkAndEmail _
    (secretText_eq_some_iff.mpr ⟨by decide +kernel, by decide +kernel, rfl⟩) (by
      unfold InfoFits
      decide +kernel)

/-- An entry with a login link and no email. -/
def linkOnly : List Char := "Login: kevin\nPassword: Secret1!\nProvider URL: mail.example".toList

/-- The link is converted away. -/
theorem link_lost : ∃ detail, secretTextToDeliveryDetail asciiPython linkOnly = some detail ∧
    InfoFits asciiPython linkOnly ∧ ¬Lossless asciiPython linkOnly detail := by
  have hfits : InfoFits asciiPython linkOnly := by
    unfold InfoFits
    decide +kernel
  refine ⟨detailOf asciiPython (secretOf asciiPython linkOnly),
    secretText_eq_some_iff.mpr ⟨by decide +kernel, by decide +kernel, rfl⟩, hfits, ?_⟩
  intro h
  have hcontent : IsContent asciiPython "Provider URL: mail.example".toList := by
    unfold IsContent
    decide +kernel
  have hshows := h "Provider URL: mail.example".toList (by decide +kernel) hcontent
  have hvalue : lineValue "Provider URL: mail.example".toList = "mail.example".toList := by
    decide +kernel
  have hstored : Stored "mail.example".toList :=
    ⟨by decide +kernel, oneLine_of_mem_splitOnP (x := "mail.example".toList) (by decide +kernel),
      by decide +kernel⟩
  rw [hvalue, shows_iff_of_no_email hfits (by decide +kernel) (by decide +kernel) hstored] at hshows
  revert hshows
  decide +kernel

end Sda.DeliveryDetails
