/-
Sda/Sync/DeliveryText.lean

Reading back the delivery texts that SDA writes.

The two texts of a credential bundle begin with the lines `Login: …` and `Password: …`, in the
account secret behind a header.  The parser gives the two values back if each is read as the whole
value of its label (`Whole`), goes into its field as it stands and outlives the clean-up (`Kept`),
and if no line behind them makes the parser fail (`Readable`).

Main results: `labeledStep_value` — one line; `labeledLoop_password` — the password line and all
that follows; `credential_text_round_trip` — both texts.
-/
import Mathlib.Data.List.Destutter
import Sda.Pool.CredentialBundle
import Sda.Sync.CredentialFrame

namespace Sda.Sync.CredentialText

open Pattern

-- a statement about the characters of a list is decided on the list, not on every character
local instance decidableForallLabel (l : List Char) (p : Char → Prop) [DecidablePred p] :
    Decidable (∀ c ∈ l, p c) :=
  List.decidableBAll p l

variable (t : Tables)

/-! ### Values and lines that are read back -/

/-- **A value that its field keeps**: `_assign_labeled` sets it as it stands, and the clean-up does
not touch it. -/
structure Kept (f : CredentialField) (value : List Char) : Prop where
  stripped : stripChars value = value
  noDash : value.head? ≠ some '-'
  noLabel : isLabelText t value = false
  noPair : f = .login → ¬('@' ∈ value ∧ ':' ∈ value ∧ '@' ∈ value.takeWhile (· != ':'))
  noArtifact : withoutArtifact value = value
  noBogus : isBogus t f value = false

/-- The arrow pattern takes the line. -/
def ArrowTakes (line : List Char) : Prop :=
  ∃ label value, arrowRe line = some (label, value) ∧
    (splitArrowPairs t line ≠ .ok none ∨
      (assignLabeled t (stripChars label) (stripChars value) {}).isSome)

/-- **A line that is read as one label and its value.** -/
structure Whole (line : List Char) : Prop where
  noSecurity : search (isSecurityRe t) line = none
  noArrow : ¬ArrowTakes t line
  noPairs : splitColonPairs t line = .ok none

/-- **Lines on which the parser does not fail**: one that it would hand to the colon split has no
stretched label. -/
def Readable (lines : List (List Char)) : Prop :=
  ∀ raw rest, (raw :: rest) <:+ lines → Splits t raw rest {} → ¬Stretched t (stripChars raw)

/-- The text gives the login and the password of the bundle back. -/
def ReadBack (text : List Char) (b : CredentialBundle) : Prop :=
  ∃ r, parseCredentialsText t text = .ok r ∧ r.login = b.login ∧ r.password = b.password

variable {t}

/-! ### Lines without separators -/

/-- A security address has an `@`. -/
theorem search_isSecurityRe {line : List Char} (h : '@' ∉ line) :
    search (isSecurityRe t) line = none := by
  have haddress : (address t).Blocked (· ≠ '@') := by
    apply Re.blocked_cat (s := .chars (· == '@')) (by simp)
    intro c hc
    simpa using hc
  refine searchFrom_blocked (p := .group (address t)) haddress _ ?_
  rintro c hc rfl
  exact h hc

/-- A line without an address, an arrow and a second colon. -/
theorem whole_of_plain {line : List Char} (hsecurity : '@' ∉ line) (harrow : arrowRe line = none)
    (hcolons : (colonPositions line).length < 2) : Whole t line where
  noSecurity := search_isSecurityRe hsecurity
  noArrow := by
    rintro ⟨label, value, hline, -⟩
    rw [harrow] at hline
    cases hline
  noPairs := if_pos hcolons

/-- Lines with one colon at most are no danger. -/
theorem readable_of_colons {lines : List (List Char)}
    (h : ∀ raw ∈ lines, (colonPositions (stripChars raw)).length < 2) : Readable t lines := by
  intro raw rest hsuffix _ hstretched
  exact Nat.not_le_of_lt (h raw (hsuffix.subset List.mem_cons_self)) hstretched.1

/-! ### The two labels -/

/-- The labels that a delivery text begins with. -/
def mainLabels : List (String × CredentialField) := [("Login", .login), ("Password", .password)]

variable {label : String} {f : CredentialField} {value z : List Char}

/-- One case for each label. -/
@[elab_as_elim]
theorem mainLabels_cases {motive : String → CredentialField → Prop}
    (h : (label, f) ∈ mainLabels) (login : motive "Login" .login)
    (password : motive "Password" .password) : motive label f := by
  rcases List.mem_pair.mp h with h | h
  · cases h
    exact login
  · cases h
    exact password

theorem labeledLine_eq (label : String) (value : List Char) :
    labeledLine label value = label.toList ++ ':' :: ' ' :: value := rfl

theorem lower_label (h : (label, f) ∈ mainLabels) :
    t.lower label.toList = label.toList.map Char.toLower := by
  apply t.lower_ascii
  exact mainLabels_cases h (by decide) (by decide)

theorem lower_labeledLine (h : (label, f) ∈ mainLabels) :
    t.lower (labeledLine label value) =
      label.toList.map Char.toLower ++ ':' :: ' ' :: t.lower value := by
  have hfront : t.lower (label.toList ++ [':']) = label.toList.map Char.toLower ++ [':'] := by
    rw [t.lower_ascii, List.map_append]
    · rfl
    · exact mainLabels_cases h (by decide) (by decide)
  have hsplit : labeledLine label value = (label.toList ++ [':']) ++ ' ' :: value := by
    simp [labeledLine]
  rw [hsplit, t.lower_blank, hfront]
  simp

theorem hasSkipPrefix_label (h : (label, f) ∈ mainLabels) :
    hasSkipPrefix (label.toList.map Char.toLower ++ ':' :: z) = false :=
  mainLabels_cases h rfl rfl

theorem sectionHeader_label (h : (label, f) ∈ mainLabels) :
    matchGroups sectionHeaderRe (label.toList ++ z) = none :=
  mainLabels_cases h rfl rfl

theorem shouldSkipLine_label (h : (label, f) ∈ mainLabels) :
    shouldSkipLine t (t.lower (labeledLine label value)) = false := by
  rw [lower_labeledLine h]
  unfold shouldSkipLine withoutSymbols
  rw [hasSkipPrefix_label h, Bool.false_or]
  -- the line begins with a letter, so no symbols are taken off it, and stripping keeps the colon
  have hword : ∀ x : List Char, (label.toList.map Char.toLower ++ x).dropWhile
      (fun c => !t.word c || c == '_') = label.toList.map Char.toLower ++ x := by
    intro x
    rw [dropWhile_eq_iff_head]
    refine mainLabels_cases h ?_ ?_
    all_goals
      show (!t.word _ || _) = false
      rw [t.word_ascii _ (by decide)]
      decide
  rw [hword, stripChars_append _ rfl]
  have hhead : (label.toList.map Char.toLower).dropWhile isSpaceChar =
      label.toList.map Char.toLower :=
    mainLabels_cases h rfl rfl
  obtain ⟨y, hy⟩ := rdropWhile_cons (p := isSpaceChar) (c := ':') rfl (' ' :: t.lower value)
  rw [hhead, hy]
  exact hasSkipPrefix_label h

theorem fieldOf_label (h : (label, f) ∈ mainLabels) : fieldOf t label.toList = some f := by
  unfold fieldOf
  rw [lower_label h]
  exact mainLabels_cases h rfl rfl

theorem head_of_stripped {value : List Char} (h : stripChars value = value) :
    value.dropWhile isSpaceChar = value := by
  rw [← h]
  exact dropWhile_rdropWhile isSpaceChar value

theorem last_of_stripped {value : List Char} (h : stripChars value = value) :
    value.rdropWhile isSpaceChar = value := by
  rw [← h]
  exact List.rdropWhile_idempotent isSpaceChar _

theorem stripChars_labeledLine (h : (label, f) ∈ mainLabels) (hne : value ≠ [])
    (hvalue : stripChars value = value) :
    stripChars (labeledLine label value) = labeledLine label value := by
  have hlast : (':' :: ' ' :: value).rdropWhile isSpaceChar = ':' :: ' ' :: value := by
    rw [List.rdropWhile_eq_self_iff]
    intro hline
    have := List.rdropWhile_eq_self_iff.mp (last_of_stripped hvalue) hne
    simpa [List.getLast_cons hne] using this
  rw [labeledLine_eq, stripChars_append _ rfl, hlast]
  exact mainLabels_cases h rfl rfl

theorem colonRe_labeledLine (h : (label, f) ∈ mainLabels) (hvalue : stripChars value = value) :
    colonRe (labeledLine label value) = some (label.toList, value) := by
  have hblank : (' ' :: value).dropWhile isSpaceChar = value := head_of_stripped hvalue
  have hcut : colonRe (labeledLine label value) =
      some (label.toList, (' ' :: value).dropWhile isSpaceChar) := by
    exact mainLabels_cases h rfl rfl
  rw [hcut, hblank]

/-! ### A line with one of the labels -/

/-- **A value that is kept** is assigned. -/
theorem assignLabeled_value {r : ParsedCredentials} (h : (label, f) ∈ mainLabels)
    (hne : value ≠ []) (hkept : Kept t f value) (hempty : r.get f = []) :
    assignLabeled t label.toList value r = some (r.set f value) := by
  have hdash : withoutDash value = value := if_neg hkept.noDash
  have hfill : fillField r f value = r.set f value := if_pos hempty
  have hnoPair : ¬((f = .login ∨ f = .email) ∧ '@' ∈ value ∧ ':' ∈ value ∧
      '@' ∈ value.takeWhile (· != ':')) := by
    have hnot : f ≠ .email := mainLabels_cases h nofun nofun
    rintro ⟨hf, hpair⟩
    exact hkept.noPair (hf.resolve_right hnot) hpair
  unfold assignLabeled
  dsimp only
  rw [hdash, if_neg hne, if_neg hne, if_neg (by rw [hkept.noLabel]; exact Bool.false_ne_true),
    fieldOf_label h]
  dsimp only
  rw [if_neg hnoPair, hfill]

theorem lineKind_labeledLine {p : Pass} (h : (label, f) ∈ mainLabels)
    (hsecurity : search (isSecurityRe t) (labeledLine label value) = none)
    (hskip : p.skipNextLine = false) : lineKind t (labeledLine label value) p = .plain := by
  have hne : labeledLine label value ≠ [] := by simp [labeledLine]
  unfold lineKind
  rw [if_neg hne, if_neg (by rw [hskip]; exact Bool.false_ne_true),
    if_neg (by rw [shouldSkipLine_label h]; exact Bool.false_ne_true), hsecurity]
  dsimp only
  rw [labeledLine_eq, sectionHeader_label h]

/-- The line is not the arrow pattern's, and no line behind it is taken for a value: that one is
blank or has a label itself. -/
theorem arrowStep_whole {p : Pass} {line : List Char} {rest : List (List Char)}
    (harrow : ¬ArrowTakes t line)
    (hnext : nextLine rest = [] ∨ (colonRe (nextLine rest)).isSome) :
    arrowStep t line rest p = .ok (.goOn rest) := by
  unfold arrowStep
  split
  · rfl
  · next label value hline =>
    have hnone : assignLabeled t (stripChars label) (stripChars value) p.result = none := by
      cases hassign : assignLabeled t (stripChars label) (stripChars value) {} with
      | none => exact assignLabeled_eq_none hassign p.result
      | some r => exact absurd ⟨label, value, hline, Or.inr (by rw [hassign]; rfl)⟩ harrow
    have hpairs : splitArrowPairs t line = .ok none := by
      by_contra hne
      exact harrow ⟨label, value, hline, Or.inl hne⟩
    have hstays : ¬(stripChars value = [] ∧ nextLine rest ≠ [] ∧ arrowRe (nextLine rest) = none ∧
        colonRe (nextLine rest) = none) := by
      rintro ⟨-, hne, -, hcolon⟩
      rcases hnext with hnext | hnext
      · exact hne hnext
      · rw [hcolon] at hnext
        cases hnext
    rw [hpairs]
    dsimp only
    rw [if_neg hstays, if_neg hstays, hnone]

theorem labelStep_value {p : Pass} {line : List Char} {rest : List (List Char)}
    (h : (label, f) ∈ mainLabels) (hne : value ≠ []) (hkept : Kept t f value)
    (hempty : p.result.get f = []) :
    labelStep t line label.toList value rest p = (p.found (p.result.set f value), rest) := by
  have hsection : inlineSectionLabels.contains (stripChars (t.lower label.toList)) = false := by
    rw [lower_label h]
    exact mainLabels_cases h rfl rfl
  -- the label stands in the table, so it is not searched for a login
  have hextract : ∀ r, extractLoginFromPasswordLabel t label.toList r = r := by
    intro r
    apply if_pos
    rw [lower_label h]
    exact mainLabels_cases h rfl rfl
  unfold labelStep
  rw [if_neg (by rw [hsection]; rintro ⟨hfalse, -⟩; exact Bool.false_ne_true hfalse),
    assignLabeled_value h hne hkept hempty]
  dsimp only
  rw [hextract, ite_self]

/-- **One line**: a value that is kept, on a line that is read as a whole, goes into its field. -/
theorem labeledStep_value {p : Pass} {rest : List (List Char)} (h : (label, f) ∈ mainLabels)
    (hne : value ≠ []) (hkept : Kept t f value) (hwhole : Whole t (labeledLine label value))
    (hskip : p.skipNextLine = false) (hempty : p.result.get f = [])
    (hnext : nextLine rest = [] ∨ (colonRe (nextLine rest)).isSome) :
    labeledStep t (labeledLine label value) rest p =
      .ok (p.found (p.result.set f value), rest) := by
  have hlabel : stripChars label.toList = label.toList := by
    exact mainLabels_cases h rfl rfl
  have hat : '@' ∉ label.toList := by
    exact mainLabels_cases h (by decide) (by decide)
  unfold labeledStep
  dsimp only
  rw [stripChars_labeledLine h hne hkept.stripped, lineKind_labeledLine h hwhole.noSecurity hskip]
  dsimp only
  rw [arrowStep_whole hwhole.noArrow hnext]
  dsimp only
  rw [colonRe_labeledLine h hkept.stripped]
  dsimp only
  rw [hlabel, hkept.stripped]
  unfold colonStep
  rw [if_neg hat, hwhole.noPairs]
  dsimp only
  rw [labelStep_value h hne hkept hempty]

/-! ### The labelled pass -/

/-- Lines on which the parser does not fail are read, and keep what was found before. -/
theorem labeledLoop_readable {n : Nat} {lines : List (List Char)} (hn : lines.length ≤ n)
    (h : Readable t lines) (p : Pass) : ∃ p', labeledLoop t n lines p = .ok p' ∧ p.KeptBy p' := by
  cases hloop : labeledLoop t n lines p with
  | ok p' => exact ⟨p', rfl, labeledLoop_keeps hloop⟩
  | error e =>
    obtain ⟨line, ⟨q, raw, rest, hreach, hsplits, rfl⟩, hstretched⟩ :=
      (labeledLoop_error_iff hn).mp ⟨e, hloop⟩
    exact absurd hstretched (h raw rest (Reaches.suffix hreach) (splits_initial hsplits))

/-- **The password line and all that follows**, once there is a login. -/
theorem labeledLoop_password {n : Nat} {login password : List Char} {p : Pass}
    {others : List (List Char)} (hn : others.length ≤ n) (hlogin : p.result.login = login)
    (hlogin_ne : login ≠ []) (hskip : p.skipNextLine = false) (hempty : p.result.password = [])
    (hpassword_ne : password ≠ []) (hkept : Kept t .password password)
    (hwhole : Whole t (labeledLine "Password" password))
    (hnext : nextLine others = [] ∨ (colonRe (nextLine others)).isSome)
    (hothers : Readable t others) :
    ∃ p', labeledLoop t (n + 1) (labeledLine "Password" password :: others) p = .ok p' ∧
      p'.foundAny = true ∧ p'.result.login = login ∧ p'.result.password = password := by
  have hlabel : ("Password", CredentialField.password) ∈ mainLabels := by decide
  have hstep := labeledStep_value hlabel hpassword_ne hkept hwhole hskip hempty hnext
  obtain ⟨p', hloop, hkeeps, hfound⟩ :=
    labeledLoop_readable hn hothers (p.found (p.result.set .password password))
  refine ⟨p', ?_, hfound rfl, ?_, ?_⟩
  · unfold labeledLoop
    rw [hstep]
    exact hloop
  · rw [← hlogin] at hlogin_ne ⊢
    exact hkeeps .login hlogin_ne
  · exact hkeeps .password hpassword_ne

/-- What the parser makes of a pass that found the login and the password. -/
theorem parse_of_pass {text login password : List Char} {p : Pass}
    (hhead : text.head?.any (fun c => !isSpaceChar c) = true)
    (hloop : labeledLoop t (dedupLines text).length (dedupLines text) {} = .ok p)
    (hfound : p.foundAny = true) (hlogin : p.result.login = login)
    (hpassword : p.result.password = password) (hlogin_ne : login ≠ [])
    (hpassword_ne : password ≠ []) (hlogin_kept : Kept t .login login)
    (hpassword_kept : Kept t .password password) :
    ∃ r, parseCredentialsText t text = .ok r ∧ r.login = login ∧ r.password = password := by
  have hne : stripChars text ≠ [] := by
    match text, hhead with
    | c :: x, hc =>
      obtain ⟨y, hy⟩ := stripChars_cons (c := c) (by simpa using hc) x
      rw [hy]
      exact List.cons_ne_nil c y
  have hpass : parseLabeled t (dedupLines text) {} = .ok (true, p.result) := by
    unfold parseLabeled
    rw [hloop]
    dsimp only
    rw [hfound, finishLabeled_eq (hlogin ▸ hlogin_ne) (hpassword ▸ hpassword_ne)]
  obtain ⟨hclean_login, hclean_password⟩ : (postProcess t p.result).login = p.result.login ∧
      (postProcess t p.result).password = p.result.password := by
    apply postProcess_keeps
    rintro f (rfl | rfl)
    · show p.result.login ≠ [] ∧ withoutArtifact p.result.login = p.result.login ∧
        isBogus t .login p.result.login = false
      rw [hlogin]
      exact ⟨hlogin_ne, hlogin_kept.noArtifact, hlogin_kept.noBogus⟩
    · show p.result.password ≠ [] ∧ withoutArtifact p.result.password = p.result.password ∧
        isBogus t .password p.result.password = false
      rw [hpassword]
      exact ⟨hpassword_ne, hpassword_kept.noArtifact, hpassword_kept.noBogus⟩
  rw [hlogin] at hclean_login
  rw [hpassword] at hclean_password
  refine ⟨postProcess t p.result, ?_, hclean_login, hclean_password⟩
  unfold parseCredentialsText
  rw [if_neg hne]
  dsimp only
  rw [hpass]
  dsimp only
  rw [if_pos (by rw [hclean_login]; exact hlogin_ne)]

/-! ### The lines of a text -/

/-- Adjacent lines that are different stay. -/
theorem destutter_cons_cons {x y : List Char} (h : x ≠ y) (ls : List (List Char)) :
    (x :: y :: ls).destutter (· ≠ ·) = x :: (y :: ls).destutter (· ≠ ·) := by
  rw [List.destutter_cons_cons, if_pos h]
  rfl

/-- The first line stays. -/
theorem destutter_cons (x : List Char) (ls : List (List Char)) :
    ∃ rest, (x :: ls).destutter (· ≠ ·) = x :: rest ∧ rest.Sublist ls := by
  induction ls with
  | nil => exact ⟨[], rfl, List.Sublist.slnil⟩
  | cons y ls ih =>
    by_cases hxy : x = y
    · obtain ⟨rest, hrest, hsub⟩ := ih
      refine ⟨rest, ?_, hsub.cons y⟩
      rw [← hxy, List.destutter_cons_cons, if_neg (not_not.mpr rfl)]
      exact hrest
    · rw [destutter_cons_cons hxy]
      exact ⟨_, rfl, List.destutter_sublist _ (y :: ls)⟩

/-- A text begins as its first line. -/
theorem head_of_dedupLines {text line : List Char} {others : List (List Char)}
    (h : dedupLines text = line :: others) (hne : line ≠ []) : text.head? = line.head? := by
  cases hlines : lines text with
  | nil => exact absurd hlines (lines_ne_nil text)
  | cons first more =>
    have hfirst : dedupLines text = (first :: more).destutter (· ≠ ·) :=
      congrArg (List.destutter (· ≠ ·)) hlines
    obtain ⟨rest, hrest, -⟩ := destutter_cons first more
    obtain rfl : line = first := by
      rw [hfirst, hrest] at h
      exact (List.cons.inj h).1.symm
    have htext : text = unlines (line :: more) := by rw [← hlines, unlines_lines]
    rw [htext]
    rcases eq_or_ne more [] with rfl | hmore
    · rw [unlines_single]
    · rw [unlines_cons hmore, List.head?_append_of_ne_nil _ hne]

theorem labeledLine_single (h : (label, f) ∈ mainLabels) (hvalue : '\n' ∉ value) :
    lines (labeledLine label value) = [labeledLine label value] := by
  have hlabel : '\n' ∉ label.toList := mainLabels_cases h (by decide) (by decide)
  apply lines_single
  simp [labeledLine, hlabel, hvalue]

theorem colonRe_isSome {x : List Char} (hx : x ≠ []) (y : List Char) :
    (colonRe (x ++ ':' :: y)).isSome = true := by
  obtain ⟨c, x, rfl⟩ := List.exists_cons_of_ne_nil hx
  have hcolon : (x ++ ':' :: y).dropWhile (· != ':') ≠ [] := by
    intro hnil
    have hall := List.dropWhile_eq_nil_iff.mp hnil ':' (by simp)
    exact absurd hall (by decide)
  rw [List.cons_append, colonRe]
  split
  · next hnil => exact absurd hnil hcolon
  · rfl

/-! ### `to_multiline` -/

variable {b : CredentialBundle}

/-- Every line behind the password has a label. -/
theorem colonRe_moreLine {line : List Char} (h : line ∈ labeledLines b.moreValues) :
    (colonRe (stripChars line)).isSome = true := by
  obtain ⟨v, hv, rfl⟩ := List.mem_map.mp h
  have hlabels : ∀ l ∈ b.moreValues.map Prod.fst, l.toList.dropWhile isSpaceChar ≠ [] := by
    show ∀ l ∈ ["Email", "Email Password", "Security Email", "Security Email Password",
      "Email Login Link"], l.toList.dropWhile isSpaceChar ≠ []
    decide
  have hlabel := hlabels v.1 (List.mem_map_of_mem (List.mem_filter.mp hv).1)
  obtain ⟨y, hy⟩ := rdropWhile_cons (p := isSpaceChar) (c := ':') rfl (' ' :: v.2)
  rw [labeledLine_eq, stripChars_append _ rfl, hy]
  exact colonRe_isSome hlabel y

/-- **What `to_multiline` needs to be read back.** -/
structure MultilineReadable (t : Tables) (b : CredentialBundle) : Prop where
  login : Kept t .login b.login
  password : Kept t .password b.password
  loginLine : Whole t (labeledLine "Login" b.login)
  passwordLine : Whole t (labeledLine "Password" b.password)
  others : Readable t ((dedupLines b.toMultiline).drop 2)

/-- The lines of the text: no line is the one before it. -/
theorem dedupLines_toMultiline (hlogin : b.login ≠ []) (hpassword : b.password ≠ [])
    (hlines : ∀ v ∈ b.values, '\n' ∉ v) :
    ∃ others, dedupLines b.toMultiline =
      labeledLine "Login" b.login :: labeledLine "Password" b.password :: others ∧
      others.Sublist (labeledLines b.moreValues) := by
  have hfirst : labeledLines ([("Login", b.login), ("Password", b.password)] ++ b.moreValues) =
      labeledLine "Login" b.login :: labeledLine "Password" b.password ::
        labeledLines b.moreValues := by
    simp [labeledLines, hlogin, hpassword]
  have hmore : (labeledLines b.moreValues).flatMap lines = labeledLines b.moreValues := by
    have hsingle : ∀ line ∈ labeledLines b.moreValues, lines line = [line] := by
      intro line hline
      obtain ⟨v, hv, rfl⟩ := List.mem_map.mp hline
      have hv := (List.mem_filter.mp hv).1
      have hlabels : ∀ l ∈ b.moreValues.map Prod.fst, '\n' ∉ l.toList := by
        show ∀ l ∈ ["Email", "Email Password", "Security Email", "Security Email Password",
          "Email Login Link"], '\n' ∉ l.toList
        decide
      have hlabel := hlabels v.1 (List.mem_map_of_mem hv)
      have hvalue : '\n' ∉ v.2 := by
        apply hlines
        have hmem : v.2 ∈ b.moreValues.map Prod.snd := List.mem_map_of_mem hv
        simp only [CredentialBundle.moreValues, List.map_cons, List.map_nil] at hmem
        simp only [CredentialBundle.values, List.mem_cons] at hmem ⊢
        tauto
      apply lines_single
      simp [labeledLine, hlabel, hvalue]
    rw [List.flatMap_congr hsingle]
    simp
  have htext : lines b.toMultiline =
      labeledLine "Login" b.login :: labeledLine "Password" b.password ::
        labeledLines b.moreValues := by
    unfold CredentialBundle.toMultiline
    rw [hfirst, lines_unlines (List.cons_ne_nil _ _), List.flatMap_cons, List.flatMap_cons, hmore,
      labeledLine_single (f := .login) (by decide) (hlines _ (by simp [CredentialBundle.values])),
      labeledLine_single (f := .password) (by decide)
        (hlines _ (by simp [CredentialBundle.values]))]
    rfl
  have hdiffer : labeledLine "Login" b.login ≠ labeledLine "Password" b.password := nofun
  obtain ⟨others, hothers, hsub⟩ :=
    destutter_cons (labeledLine "Password" b.password) (labeledLines b.moreValues)
  refine ⟨others, ?_, hsub⟩
  show (lines b.toMultiline).destutter (· ≠ ·) = _
  rw [htext, destutter_cons_cons hdiffer, hothers]

/-- **`to_multiline` is read back.** -/
theorem parse_toMultiline (hlogin : b.login ≠ []) (hpassword : b.password ≠ [])
    (hlines : ∀ v ∈ b.values, '\n' ∉ v) (h : MultilineReadable t b) :
    ReadBack t b.toMultiline b := by
  obtain ⟨others, htext, hsub⟩ := dedupLines_toMultiline hlogin hpassword hlines
  have hothers : Readable t others := by
    have := h.others
    rw [htext] at this
    exact this
  have hnext : nextLine others = [] ∨ (colonRe (nextLine others)).isSome = true := by
    cases others with
    | nil => exact Or.inl rfl
    | cons line others => exact Or.inr (colonRe_moreLine (hsub.subset List.mem_cons_self))
  have hlabel : ("Login", CredentialField.login) ∈ mainLabels := by decide
  -- behind the login line comes the password line, which has a colon
  have hcolon :
      (colonRe (nextLine (labeledLine "Password" b.password :: others))).isSome = true := by
    show (colonRe (stripChars (labeledLine "Password" b.password))).isSome = true
    rw [stripChars_labeledLine (f := .password) (by decide) hpassword h.password.stripped,
      colonRe_labeledLine (f := .password) (by decide) h.password.stripped]
    rfl
  have hstep := labeledStep_value (p := {}) hlabel hlogin h.login h.loginLine rfl rfl
    (Or.inr hcolon)
  obtain ⟨p, hloop, hfound, hlogin', hpassword'⟩ :=
    labeledLoop_password (t := t) (p := Pass.found {} (ParsedCredentials.set {} .login b.login))
      (le_refl others.length) rfl hlogin rfl rfl hpassword h.password h.passwordLine hnext hothers
  have hpass : labeledLoop t (dedupLines b.toMultiline).length (dedupLines b.toMultiline) {} =
      .ok p := by
    rw [htext]
    show labeledLoop t (others.length + 1 + 1) _ _ = _
    rw [labeledLoop, hstep]
    exact hloop
  have hhead : b.toMultiline.head?.any (fun c => !isSpaceChar c) = true := by
    rw [head_of_dedupLines htext (by simp [labeledLine])]
    rfl
  exact parse_of_pass hhead hpass hfound hlogin' hpassword' hlogin hpassword h.login h.password

/-! ### The account secret -/

/-- **What the account secret needs to be read back.**  The login line is taken by the header, which
does not look for separators in it. -/
structure SecretReadable (t : Tables) (b : CredentialBundle) (text : List Char) : Prop where
  login : Kept t .login b.login
  password : Kept t .password b.password
  passwordLine : Whole t (labeledLine "Password" b.password)
  others : Readable t ((dedupLines text).drop 3)

/-- The header of the first section. -/
def accountHeader : List Char := "Account details".toList

theorem lineKind_accountHeader : lineKind t accountHeader {} = .header accountHeader := by
  have hlower : t.lower accountHeader = "account details".toList :=
    t.lower_ascii _ (by decide)
  have hskip : shouldSkipLine t (t.lower accountHeader) = false := by
    have hword : "account details".toList.dropWhile (fun c => !t.word c || c == '_') =
        "account details".toList := by
      rw [dropWhile_eq_iff_head]
      show (!t.word _ || _) = false
      rw [t.word_ascii _ (by decide)]
      decide
    rw [hlower]
    unfold shouldSkipLine withoutSymbols
    rw [hword]
    rfl
  unfold lineKind
  rw [if_neg (by decide), if_neg (by decide),
    if_neg (by rw [hskip]; exact Bool.false_ne_true), search_isSecurityRe (by decide)]
  rfl

theorem parseSectionPair_login {login : List Char} (hne : login ≠ [])
    (hkept : Kept t .login login) :
    parseSectionPair t accountHeader (labeledLine "Login" login) {} =
      ParsedCredentials.set {} .login login := by
  have hlabel : ("Login", CredentialField.login) ∈ mainLabels := by decide
  have hcleaned : stripChars (((labeledLine "Login" login).dropWhile (· == ':')).rdropWhile
      (· == ':')) ≠ [] := by
    obtain ⟨y, hy⟩ := rdropWhile_cons (p := (· == ':')) (c := 'L') rfl
      ("ogin".toList ++ ':' :: ' ' :: login)
    obtain ⟨z, hz⟩ := stripChars_cons (c := 'L') rfl y
    show stripChars (('L' :: ("ogin".toList ++ ':' :: ' ' :: login)).rdropWhile (· == ':')) ≠ []
    rw [hy, hz]
    exact List.cons_ne_nil _ _
  have hnamed : "Login".toList ≠ [] ∧ '@' ∉ "Login".toList ∧
      ((labelField (t.lower "Login".toList)).or
        (suffixMatchLabel (t.lower "Login".toList))).isSome = true := by
    refine ⟨by decide, by decide, ?_⟩
    rw [lower_label hlabel]
    rfl
  unfold parseSectionPair
  dsimp only
  rw [if_neg hcleaned, colonRe_labeledLine hlabel hkept.stripped]
  dsimp only
  rw [show stripChars "Login".toList = "Login".toList from rfl, hkept.stripped, if_pos hnamed,
    assignLabeled_value hlabel hne hkept rfl]
  rfl

/-- The header takes the login line. -/
theorem labeledStep_accountHeader {login : List Char} {rest : List (List Char)} (hne : login ≠ [])
    (hkept : Kept t .login login) :
    labeledStep t accountHeader (labeledLine "Login" login :: rest) {} =
      .ok (Pass.found {} (ParsedCredentials.set {} .login login), rest) := by
  have hlabel : ("Login", CredentialField.login) ∈ mainLabels := by decide
  have hline := stripChars_labeledLine hlabel hne hkept.stripped
  have hblank : ¬(stripChars (labeledLine "Login" login) == []) = true := by
    rw [hline]
    simp [labeledLine]
  unfold labeledStep
  dsimp only
  rw [show stripChars accountHeader = accountHeader from rfl, lineKind_accountHeader]
  dsimp only
  unfold headerStep
  rw [List.dropWhile_cons, if_neg hblank]
  dsimp only
  rw [hline, parseSectionPair_login hne hkept]

/-- The text is the account section and others behind it. -/
theorem secret_eq {text : List Char} (hlogin : b.login ≠ []) (hpassword : b.password ≠ [])
    (h : b.toEldoradoAccountSecret t.lower = .ok text) :
    ∃ sections, text = joinChars "\n\n".toList (unlines [accountHeader,
      labeledLine "Login" b.login, labeledLine "Password" b.password] :: sections) := by
  have hvalues : labeledLines [("Login", b.login), ("Password", b.password)] =
      [labeledLine "Login" b.login, labeledLine "Password" b.password] := by
    simp [labeledLines, hlogin, hpassword]
  have hsections : b.secretSections = unlines [accountHeader, labeledLine "Login" b.login,
      labeledLine "Password" b.password] :: b.moreSections := by
    unfold CredentialBundle.secretSections CredentialBundle.sectionOf
    rw [hvalues, if_neg (List.cons_ne_nil _ _)]
    rfl
  unfold CredentialBundle.toEldoradoAccountSecret at h
  rw [hsections] at h
  dsimp only at h
  split at h
  · exact ⟨b.moreSections, (Except.ok.inj h).symm⟩
  · split at h
    · cases h
    · exact ⟨_, (Except.ok.inj h).symm⟩

/-- The lines of the text: behind the password there is a blank line, or none. -/
theorem dedupLines_secret {text : List Char} (hlogin : b.login ≠ []) (hpassword : b.password ≠ [])
    (hlines : ∀ v ∈ b.values, '\n' ∉ v) (h : b.toEldoradoAccountSecret t.lower = .ok text) :
    ∃ others, dedupLines text = accountHeader :: labeledLine "Login" b.login ::
      labeledLine "Password" b.password :: others ∧ nextLine others = [] := by
  obtain ⟨sections, htext⟩ := secret_eq hlogin hpassword h
  have haccount : lines (unlines [accountHeader, labeledLine "Login" b.login,
      labeledLine "Password" b.password]) =
      [accountHeader, labeledLine "Login" b.login, labeledLine "Password" b.password] := by
    rw [lines_unlines (List.cons_ne_nil _ _), List.flatMap_cons, List.flatMap_cons,
      List.flatMap_cons, List.flatMap_nil,
      labeledLine_single (f := .login) (by decide) (hlines _ (by simp [CredentialBundle.values])),
      labeledLine_single (f := .password) (by decide)
        (hlines _ (by simp [CredentialBundle.values]))]
    rfl
  have hdiffer : labeledLine "Login" b.login ≠ labeledLine "Password" b.password := nofun
  have hheader : accountHeader ≠ labeledLine "Login" b.login := nofun
  have hblank : labeledLine "Password" b.password ≠ [] := nofun
  show ∃ others, (lines text).destutter (· ≠ ·) = _ ∧ _
  rw [htext]
  rcases eq_or_ne sections [] with rfl | hne
  · refine ⟨[], ?_, rfl⟩
    rw [show joinChars "\n\n".toList [unlines _] = unlines _ from List.intercalate_singleton,
      haccount, destutter_cons_cons hheader, destutter_cons_cons hdiffer]
    rfl
  · have hsplit : lines (joinChars "\n\n".toList (unlines [accountHeader,
        labeledLine "Login" b.login, labeledLine "Password" b.password] :: sections)) =
        [accountHeader, labeledLine "Login" b.login, labeledLine "Password" b.password] ++
          [] :: lines (joinChars "\n\n".toList sections) := by
      unfold joinChars
      rw [List.intercalate_cons_of_ne_nil hne, List.append_assoc]
      show lines (_ ++ '\n' :: ([] ++ '\n' :: _)) = _
      rw [lines_append, haccount, lines_append]
      rfl
    obtain ⟨rest, hrest, -⟩ := destutter_cons [] (lines (joinChars "\n\n".toList sections))
    refine ⟨[] :: rest, ?_, rfl⟩
    rw [hsplit]
    show (accountHeader :: labeledLine "Login" b.login :: labeledLine "Password" b.password ::
      [] :: lines _).destutter (· ≠ ·) = _
    rw [destutter_cons_cons hheader, destutter_cons_cons hdiffer, destutter_cons_cons hblank, hrest]

/-- **The account secret is read back.** -/
theorem parse_secret {text : List Char} (hlogin : b.login ≠ []) (hpassword : b.password ≠ [])
    (hlines : ∀ v ∈ b.values, '\n' ∉ v) (htext : b.toEldoradoAccountSecret t.lower = .ok text)
    (h : SecretReadable t b text) : ReadBack t text b := by
  obtain ⟨others, hdedup, hnext⟩ := dedupLines_secret hlogin hpassword hlines htext
  have hothers : Readable t others := by
    have := h.others
    rw [hdedup] at this
    exact this
  obtain ⟨p, hloop, hfound, hlogin', hpassword'⟩ :=
    labeledLoop_password (t := t) (p := Pass.found {} (ParsedCredentials.set {} .login b.login))
      (Nat.le_succ others.length) rfl hlogin rfl rfl hpassword h.password h.passwordLine
      (Or.inl hnext) hothers
  have hpass : labeledLoop t (dedupLines text).length (dedupLines text) {} = .ok p := by
    rw [hdedup]
    show labeledLoop t (others.length + 1 + 1 + 1) _ _ = _
    rw [labeledLoop, labeledStep_accountHeader hlogin h.login]
    exact hloop
  have hhead : text.head?.any (fun c => !isSpaceChar c) = true := by
    rw [head_of_dedupLines hdedup (by decide)]
    rfl
  exact parse_of_pass hhead hpass hfound hlogin' hpassword' hlogin hpassword h.login h.password

/-! ### Both texts -/

/-- **SDA's own delivery texts are read back**: a login and a password that are no label words,
instructions or pairs themselves, with nothing in them that the parser takes for a separator, come
back from both texts of their bundle. -/
theorem credential_text_round_trip (t : Tables) (b : CredentialBundle) (hlogin : b.login ≠ [])
    (hpassword : b.password ≠ []) (hlines : ∀ v ∈ b.values, '\n' ∉ v) :
    (MultilineReadable t b → ReadBack t b.toMultiline b) ∧
      ∀ text, b.toEldoradoAccountSecret t.lower = .ok text → SecretReadable t b text →
        ReadBack t text b :=
  ⟨parse_toMultiline hlogin hpassword hlines,
    fun _ htext h => parse_secret hlogin hpassword hlines htext h⟩

/-- A login that is itself a label is rejected. -/
theorem credential_text_round_trip_fails :
    ¬∀ b : CredentialBundle, b.postInit = b → b.login ≠ [] → b.password ≠ [] →
      (∀ v ∈ b.values, '\n' ∉ v) → ReadBack asciiTables b.toMultiline b ∧
        ∀ text, b.toEldoradoAccountSecret asciiTables.lower = .ok text →
          ReadBack asciiTables text b := by
  intro h
  obtain ⟨⟨r, hr, hlogin, -⟩, -⟩ := h { login := "steam".toList, password := "Secret1!".toList }
    (by decide) (by decide) (by decide) (by decide)
  have hparse : (parseCredentialsText asciiTables (CredentialBundle.toMultiline
      { login := "steam".toList, password := "Secret1!".toList })).toOption.map (·.login) =
      some "Login: steam".toList := by
    decide +kernel
  rw [hr] at hparse
  have hread : r.login = "Login: steam".toList := Option.some.inj hparse
  rw [hread] at hlogin
  exact absurd hlogin (by decide)

/-- A bundle with an address. -/
def ordinaryBundle : CredentialBundle where
  login := "user".toList
  password := "Secret1!".toList
  emailLogin := "user@mail.com".toList

theorem ordinaryBundle_kept : Kept asciiTables .login ordinaryBundle.login ∧
    Kept asciiTables .password ordinaryBundle.password := by
  constructor
  · exact ⟨by decide +kernel, by decide, by decide +kernel, by decide, by decide +kernel,
      by decide +kernel⟩
  · exact ⟨by decide +kernel, by decide, by decide +kernel, by decide, by decide +kernel,
      by decide +kernel⟩

theorem credential_text_round_trip_ordinary :
    ReadBack asciiTables ordinaryBundle.toMultiline ordinaryBundle ∧
      ReadBack asciiTables (joinChars "\n\n".toList ordinaryBundle.secretSections)
        ordinaryBundle := by
  have hboth := credential_text_round_trip asciiTables ordinaryBundle (by decide) (by decide)
    (by decide)
  have hloginLine : Whole asciiTables (labeledLine "Login" ordinaryBundle.login) :=
    whole_of_plain (by decide) (by decide) (by decide)
  have hpasswordLine : Whole asciiTables (labeledLine "Password" ordinaryBundle.password) :=
    whole_of_plain (by decide) (by decide) (by decide)
  constructor
  · apply hboth.1
    exact ⟨ordinaryBundle_kept.1, ordinaryBundle_kept.2, hloginLine, hpasswordLine,
      readable_of_colons (by decide +kernel)⟩
  · apply hboth.2 _ (by decide)
    exact ⟨ordinaryBundle_kept.1, ordinaryBundle_kept.2, hpasswordLine,
      readable_of_colons (by decide +kernel)⟩

end Sda.Sync.CredentialText
