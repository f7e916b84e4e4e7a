/-
Sda/Sdk/SecretLines.lean

What a line of a legacy delivery entry does.

The branches of `secret_text_to_delivery_detail` differ by the section and by the label.  Since no
label stands in two of the tables of a section, they come down to one question: which field does the
line name there?  A field takes the first value that is not empty; every other line is left over.

Main results: `secretStep_eq` — the step in these terms; `get_foldl` — a field that has a value keeps
it; `get_foldl_ne_nil_iff` — a field has a value exactly if some line names it with one.
-/
import Sda.Sdk.DeliveryDetails

namespace Sda.DeliveryDetails

open Templates (Python)

/-! ### Fields -/

/-- The fields of an entry. -/
inductive SecretField
  | login | password | email | emailPassword | emailUrl
  deriving DecidableEq

namespace Secret

def get (s : Secret) : SecretField → List Char
  | .login => s.login
  | .password => s.password
  | .email => s.email
  | .emailPassword => s.emailPassword
  | .emailUrl => s.emailUrl

def set (s : Secret) (value : List Char) : SecretField → Secret
  | .login => { s with login := value }
  | .password => { s with password := value }
  | .email => { s with email := value }
  | .emailPassword => { s with emailPassword := value }
  | .emailUrl => { s with emailUrl := value }

variable (s : Secret) (value line : List Char) (f g : SecretField)

theorem get_set : (s.set value f).get g = if g = f then value else s.get g := by
  cases f <;> cases g <;> rfl

@[simp] theorem sect_set : (s.set value f).sect = s.sect := by
  cases f <;> rfl

@[simp] theorem leftovers_set : (s.set value f).leftovers = s.leftovers := by
  cases f <;> rfl

@[simp] theorem get_leave : (s.leave line).get f = s.get f := by
  cases f <;> rfl

@[simp] theorem sect_leave : (s.leave line).sect = s.sect := rfl

@[simp] theorem leftovers_leave : (s.leave line).leftovers = s.leftovers ++ [line] := rfl

end Secret

/-! ### Labels -/

local instance lawfulBEq_label : LawfulBEq (List Char) := inferInstance

/-- The field of a label in the section for the email. -/
def emailField (label : List Char) : Option SecretField :=
  if label ∈ "login".toList :: emailLabels then some .email
  else if label ∈ "password".toList :: emailPasswordLabels then some .emailPassword
  else if label ∈ emailUrlLabels then some .emailUrl
  else none

/-- The field of a label in the account section. -/
def accountField (label : List Char) : Option SecretField :=
  if label ∈ emailPasswordLabels then some .emailPassword
  else if label ∈ emailUrlLabels then some .emailUrl
  else if label ∈ emailLabels then some .email
  else if label ∈ loginLabels then some .login
  else if label ∈ passwordLabels then some .password
  else none

theorem disjoint_labels {l m : List (List Char)} (h : (l.all fun label => !m.contains label) = true)
    {label : List Char} (hl : label ∈ l) : label ∉ m := by
  have := List.all_eq_true.mp h label hl
  simpa using this

section

variable {s : Secret} {stripped label value : List Char}

/-- The section for the email: no label stands in two of its tables. -/
theorem emailStep_eq : emailStep s stripped label value =
    match emailField label with
    | some f => if s.get f = [] then s.set value f else s.leave stripped
    | none => s.leave stripped := by
  unfold emailStep emailField
  by_cases hemail : label ∈ "login".toList :: emailLabels
  · have hpassword : label ∉ "password".toList :: emailPasswordLabels :=
      disjoint_labels (by decide +kernel) hemail
    have hurl : label ∉ emailUrlLabels := disjoint_labels (by decide +kernel) hemail
    simp only [hemail, hpassword, hurl, true_and, false_and, if_true, if_false]
    rfl
  · by_cases hpassword : label ∈ "password".toList :: emailPasswordLabels
    · have hurl : label ∉ emailUrlLabels := disjoint_labels (by decide +kernel) hpassword
      simp only [hemail, hpassword, hurl, true_and, false_and, if_true, if_false]
      rfl
    · by_cases hurl : label ∈ emailUrlLabels
      · simp only [hemail, hpassword, hurl, true_and, false_and, if_true, if_false]
        rfl
      · simp only [hemail, hpassword, hurl, false_and, if_false]

/-- The account section, likewise. -/
theorem accountStep_eq : accountStep s stripped label value =
    match accountField label with
    | some f => if s.get f = [] then s.set value f else s.leave stripped
    | none => s.leave stripped := by
  unfold accountStep accountField
  by_cases hemailPassword : label ∈ emailPasswordLabels
  · have hurl : label ∉ emailUrlLabels := disjoint_labels (by decide +kernel) hemailPassword
    have hemail : label ∉ emailLabels := disjoint_labels (by decide +kernel) hemailPassword
    have hlogin : label ∉ loginLabels := disjoint_labels (by decide +kernel) hemailPassword
    have hpassword : label ∉ passwordLabels := disjoint_labels (by decide +kernel) hemailPassword
    simp only [hemailPassword, hurl, hemail, hlogin, hpassword, true_and, false_and, if_true,
      if_false]
    rfl
  by_cases hurl : label ∈ emailUrlLabels
  · have hemail : label ∉ emailLabels := disjoint_labels (by decide +kernel) hurl
    have hlogin : label ∉ loginLabels := disjoint_labels (by decide +kernel) hurl
    have hpassword : label ∉ passwordLabels := disjoint_labels (by decide +kernel) hurl
    simp only [hemailPassword, hurl, hemail, hlogin, hpassword, true_and, false_and, if_true,
      if_false]
    rfl
  by_cases hemail : label ∈ emailLabels
  · have hlogin : label ∉ loginLabels := disjoint_labels (by decide +kernel) hemail
    have hpassword : label ∉ passwordLabels := disjoint_labels (by decide +kernel) hemail
    simp only [hemailPassword, hurl, hemail, hlogin, hpassword, true_and, false_and, if_true,
      if_false]
    rfl
  by_cases hlogin : label ∈ loginLabels
  · have hpassword : label ∉ passwordLabels := disjoint_labels (by decide +kernel) hlogin
    simp only [hemailPassword, hurl, hemail, hlogin, hpassword, true_and, false_and, if_true,
      if_false]
    rfl
  by_cases hpassword : label ∈ passwordLabels
  · simp only [hemailPassword, hurl, hemail, hlogin, hpassword, true_and, false_and, if_true,
      if_false]
    rfl
  · simp only [hemailPassword, hurl, hemail, hlogin, hpassword, false_and, if_false]

end

/-! ### Lines -/

variable (py : Python)

/-- The section that a line opens. -/
def headerOf (line : List Char) : Option Section :=
  if stripChars line = [] then none
  else sectionHeaders.lookup ((py.lower (stripChars line)).rdropWhile (· == ':'))

/-- The field that a line names in a section, and the value. -/
def named (sect : Option Section) (line : List Char) : Option (SecretField × List Char) :=
  match labelLine (stripChars line) with
  | none => none
  | some (label, value) =>
    match sect with
    | some .email => (emailField (py.lower label)).map (·, value)
    | none | some .account =>
      if value = [] then none else (accountField (py.lower label)).map (·, value)
    | some .mfa | some .info => none

variable {py} in
/-- The value that a line names a field with is the one behind its label. -/
theorem labelLine_of_named {sect : Option Section} {line value : List Char} {f : SecretField}
    (h : named py sect line = some (f, value)) :
    ∃ label, labelLine (stripChars line) = some (label, value) := by
  unfold named at h
  cases hlabel : labelLine (stripChars line) with
  | none =>
    rw [hlabel] at h
    cases h
  | some labeled =>
    obtain ⟨label, value'⟩ := labeled
    rw [hlabel] at h
    dsimp only at h
    have haccount : (if value' = [] then none
        else (accountField (py.lower label)).map (·, value')) = some (f, value) →
        value' = value := by
      intro h
      split at h
      · cases h
      · obtain ⟨g, -, hg⟩ := Option.map_eq_some_iff.mp h
        exact (Prod.mk.inj hg).2
    refine ⟨label, congrArg (fun v => some (label, v)) ?_⟩
    match sect with
    | none => exact haccount h
    | some .account => exact haccount h
    | some .email =>
      obtain ⟨g, -, hg⟩ := Option.map_eq_some_iff.mp h
      exact (Prod.mk.inj hg).2
    | some .mfa => cases h
    | some .info => cases h

/-- The value behind a label is a part of the line, stripped. -/
theorem labelLine_value {line label value : List Char} (h : labelLine line = some (label, value)) :
    stripChars value = value ∧ value <:+: line := by
  unfold labelLine at h
  dsimp only at h
  split at h
  · cases h
  · next c after hafter =>
    split at h
    · cases h
      refine ⟨stripChars_stripChars after, ?_⟩
      have hback : c :: after <:+: line := by
        rw [← hafter]
        exact (List.dropWhile_suffix _).isInfix
      have hvalue : stripChars after <:+: after :=
        (List.rdropWhile_prefix _ _).isInfix.trans (List.dropWhile_suffix _).isInfix
      exact (hvalue.trans (List.suffix_cons c after).isInfix).trans hback
    · cases h

/-- **What a line does**: a field takes its first value. -/
theorem secretStep_eq (s : Secret) (line : List Char) : secretStep py s line =
    if stripChars line = [] then s
    else
      match headerOf py line with
      | some header => { s with sect := some header }
      | none =>
        match named py s.sect line with
        | some (f, value) => if s.get f = [] then s.set value f else s.leave (stripChars line)
        | none => s.leave (stripChars line) := by
  unfold secretStep headerOf named
  dsimp only
  by_cases hblank : stripChars line = []
  · rw [if_pos hblank, if_pos hblank]
  rw [if_neg hblank, if_neg hblank, if_neg hblank]
  cases sectionHeaders.lookup ((py.lower (stripChars line)).rdropWhile (· == ':')) with
  | some header => rfl
  | none =>
    dsimp only
    cases labelLine (stripChars line) with
    | none => rfl
    | some labeled =>
      obtain ⟨label, value⟩ := labeled
      have haccount : (if value = [] then s.leave (stripChars line)
          else accountStep s (stripChars line) (py.lower label) value) =
          match (if value = [] then none else (accountField (py.lower label)).map (·, value)) with
          | some (f, value) => if s.get f = [] then s.set value f else s.leave (stripChars line)
          | none => s.leave (stripChars line) := by
        by_cases hvalue : value = []
        · rw [if_pos hvalue, if_pos hvalue]
        · rw [if_neg hvalue, if_neg hvalue, accountStep_eq]
          cases accountField (py.lower label) <;> rfl
      dsimp only
      match s.sect with
      | none => exact haccount
      | some .account => exact haccount
      | some .email =>
        show emailStep s (stripChars line) (py.lower label) value = _
        rw [emailStep_eq]
        cases emailField (py.lower label) <;> rfl
      | some .mfa => rfl
      | some .info => rfl

/-! ### The lines of an entry -/

/-- The section in front of the next line. -/
def sectionAfter (lines : List (List Char)) : Option Section :=
  lines.foldl (fun sect line => (headerOf py line).or sect) none

/-- A line that is neither blank nor a header. -/
def IsContent (line : List Char) : Prop := stripChars line ≠ [] ∧ headerOf py line = none

/-- Behind these lines, a line gives the field a value. -/
structure Gives (f : SecretField) (value : List Char) (pre : List (List Char)) (line : List Char) :
    Prop where
  content : IsContent py line
  named : named py (sectionAfter py pre) line = some (f, value)
  value_ne : value ≠ []

/-- Some of the lines gives the field a value. -/
def Given (f : SecretField) (lines : List (List Char)) : Prop :=
  ∃ pre line post value, lines = pre ++ line :: post ∧ Gives py f value pre line

variable {py} {f : SecretField}

/-- Behind the lines there is one more: it is the one that gives the value, or it is one of them. -/
theorem given_concat {lines : List (List Char)} {line : List Char} :
    Given py f (lines ++ [line]) ↔ Given py f lines ∨ ∃ value, Gives py f value lines line := by
  constructor
  · rintro ⟨pre, line', post, value, hlines, hgives⟩
    rcases List.eq_nil_or_concat post with rfl | ⟨post, last, rfl⟩
    · obtain ⟨rfl, hline⟩ := List.append_inj' hlines rfl
      cases hline
      exact Or.inr ⟨value, hgives⟩
    · rw [List.concat_eq_append, ← List.cons_append, ← List.append_assoc] at hlines
      obtain ⟨rfl, -⟩ := List.append_inj' hlines rfl
      exact Or.inl ⟨pre, line', post, value, rfl, hgives⟩
  · rintro (⟨pre, line', post, value, rfl, hgives⟩ | ⟨value, hgives⟩)
    · exact ⟨pre, line', post ++ [line], value, by simp, hgives⟩
    · exact ⟨lines, line, [], value, rfl, hgives⟩

/-- There is a first line that gives it. -/
theorem Given.first {lines : List (List Char)} (h : Given py f lines) :
    ∃ pre line post value, lines = pre ++ line :: post ∧ Gives py f value pre line ∧
      ¬Given py f pre := by
  induction lines using List.reverseRecOn with
  | nil =>
    obtain ⟨pre, line, post, value, hlines, -⟩ := h
    simp at hlines
  | append_singleton lines line ih =>
    by_cases hbefore : Given py f lines
    · obtain ⟨pre, line', post, value, rfl, hgives, hfirst⟩ := ih hbefore
      exact ⟨pre, line', post ++ [line], value, by simp, hgives, hfirst⟩
    · obtain ⟨value, hgives⟩ := (given_concat.mp h).resolve_left hbefore
      exact ⟨lines, line, [], value, rfl, hgives, hbefore⟩

theorem secretStep_of_not_content (s : Secret) {line : List Char} (h : ¬IsContent py line) :
    ∃ sect, secretStep py s line = { s with sect := sect } := by
  rw [secretStep_eq]
  by_cases hblank : stripChars line = []
  · exact ⟨s.sect, if_pos hblank⟩
  rw [if_neg hblank]
  cases hheader : headerOf py line with
  | some header => exact ⟨some header, rfl⟩
  | none => exact absurd ⟨hblank, hheader⟩ h

theorem secretStep_of_content (s : Secret) {line : List Char} (h : IsContent py line) :
    secretStep py s line = match named py s.sect line with
      | some (f, value) => if s.get f = [] then s.set value f else s.leave (stripChars line)
      | none => s.leave (stripChars line) := by
  rw [secretStep_eq, if_neg h.1, h.2]

/-- A field without a value takes the one that a line names it with. -/
theorem secretStep_of_named {s : Secret} {line value : List Char} (h : IsContent py line)
    (hnamed : named py s.sect line = some (f, value)) (hempty : s.get f = []) :
    secretStep py s line = s.set value f := by
  rw [secretStep_of_content s h, hnamed]
  exact if_pos hempty

/-- A line that names no field, or one with a value, is left over. -/
theorem secretStep_of_left {s : Secret} {line : List Char} (h : IsContent py line)
    (hleft : ∀ g value, named py s.sect line = some (g, value) → s.get g ≠ []) :
    secretStep py s line = s.leave (stripChars line) := by
  rw [secretStep_of_content s h]
  cases hnamed : named py s.sect line with
  | none => rfl
  | some gv => exact if_neg (hleft gv.1 gv.2 hnamed)

/-- **The three things that a line can do.** -/
theorem secretStep_cases (py : Python) (s : Secret) (line : List Char) :
    (¬IsContent py line ∧ ∃ sect, secretStep py s line = { s with sect := sect }) ∨
    (IsContent py line ∧ ∃ g value, named py s.sect line = some (g, value) ∧ s.get g = [] ∧
      secretStep py s line = s.set value g) ∨
    (IsContent py line ∧ (∀ g value, named py s.sect line = some (g, value) → s.get g ≠ []) ∧
      secretStep py s line = s.leave (stripChars line)) := by
  by_cases h : IsContent py line
  · right
    by_cases hleft : ∀ g value, named py s.sect line = some (g, value) → s.get g ≠ []
    · exact Or.inr ⟨h, hleft, secretStep_of_left h hleft⟩
    · push Not at hleft
      obtain ⟨g, value, hnamed, hempty⟩ := hleft
      exact Or.inl ⟨h, g, value, hnamed, hempty, secretStep_of_named h hnamed hempty⟩
  · exact Or.inl ⟨h, secretStep_of_not_content s h⟩

theorem sect_secretStep (s : Secret) (line : List Char) :
    (secretStep py s line).sect = (headerOf py line).or s.sect := by
  rw [secretStep_eq]
  by_cases hblank : stripChars line = []
  · rw [if_pos hblank, headerOf, if_pos hblank, Option.none_or]
  rw [if_neg hblank]
  cases headerOf py line with
  | some header => rfl
  | none =>
    dsimp only
    cases named py s.sect line with
    | none => rfl
    | some fv =>
      dsimp only
      split <;> simp

theorem sect_foldl (py : Python) (lines : List (List Char)) :
    (lines.foldl (secretStep py) {}).sect = sectionAfter py lines := by
  induction lines using List.reverseRecOn with
  | nil => rfl
  | append_singleton lines line ih =>
    unfold sectionAfter at ih ⊢
    rw [List.foldl_append, List.foldl_append, ← ih]
    exact sect_secretStep _ line

/-! ### The fields of an entry -/

/-- A field that has a value keeps it. -/
theorem get_secretStep (py : Python) {s : Secret} (h : s.get f ≠ []) (line : List Char) :
    (secretStep py s line).get f = s.get f := by
  rcases secretStep_cases py s line with
    ⟨-, sect, hstep⟩ | ⟨-, g, value, -, hempty, hstep⟩ | ⟨-, -, hstep⟩
  · rw [hstep]
    cases f <;> rfl
  · rw [hstep, Secret.get_set, if_neg]
    rintro rfl
    exact h hempty
  · rw [hstep, Secret.get_leave]

theorem get_foldl {s : Secret} (h : s.get f ≠ []) (lines : List (List Char)) :
    (lines.foldl (secretStep py) s).get f = s.get f := by
  induction lines generalizing s with
  | nil => rfl
  | cons line lines ih =>
    have hstep := get_secretStep py h line
    rw [List.foldl_cons, ih (by rw [hstep]; exact h), hstep]

/-- **A field has a value exactly if some line gives it one.**  The induction is on the lines, from
the last: what a line names depends on the headers in front of it. -/
theorem get_foldl_ne_nil_iff (lines : List (List Char)) :
    (lines.foldl (secretStep py) {}).get f ≠ [] ↔ Given py f lines := by
  induction lines using List.reverseRecOn with
  | nil =>
    constructor
    · intro h
      cases f <;> exact absurd rfl h
    · rintro ⟨pre, line, post, value, hlines, -⟩
      simp at hlines
  | append_singleton lines line ih =>
    rw [given_concat, ← ih, List.foldl_append]
    show (secretStep py _ line).get f ≠ [] ↔ _
    have hsect := sect_foldl py lines
    generalize lines.foldl (secretStep py) {} = s at hsect ⊢
    by_cases hne : s.get f ≠ []
    · rw [get_secretStep py hne line]
      exact ⟨Or.inl, fun _ => hne⟩
    rw [or_iff_right hne]
    rcases secretStep_cases py s line with
      ⟨hcontent, sect, hstep⟩ | ⟨hcontent, g, value, hnamed, hempty, hstep⟩ |
        ⟨hcontent, hleft, hstep⟩
    · rw [hstep]
      constructor
      · intro h
        exact absurd (by cases f <;> exact h) hne
      · rintro ⟨value, hgives⟩
        exact absurd hgives.content hcontent
    · rw [hstep, Secret.get_set]
      constructor
      · intro h
        by_cases hfg : f = g
        · subst hfg
          rw [if_pos rfl] at h
          exact ⟨value, hcontent, hsect ▸ hnamed, h⟩
        · rw [if_neg hfg] at h
          exact absurd h hne
      · rintro ⟨value', hgives⟩
        have hsame := hgives.named
        rw [← hsect, hnamed] at hsame
        cases hsame
        rw [if_pos rfl]
        exact hgives.value_ne
    · rw [hstep, Secret.get_leave]
      constructor
      · exact fun h => absurd h hne
      · rintro ⟨value, hgives⟩
        exact hleft f value (hsect ▸ hgives.named)

/-- The first line that gives a field a value settles it. -/
theorem get_foldl_of_first {pre line value} (post : List (List Char))
    (hgives : Gives py f value pre line) (hfirst : ¬Given py f pre) :
    ((pre ++ line :: post).foldl (secretStep py) {}).get f = value := by
  have hempty : (pre.foldl (secretStep py) {}).get f = [] := by
    by_contra hne
    exact hfirst ((get_foldl_ne_nil_iff pre).mp hne)
  have hstep : (secretStep py (pre.foldl (secretStep py) {}) line).get f = value := by
    rw [secretStep_of_named hgives.content ((sect_foldl py pre).symm ▸ hgives.named) hempty,
      Secret.get_set, if_pos rfl]
  rw [List.foldl_append, List.foldl_cons, get_foldl (by rw [hstep]; exact hgives.value_ne), hstep]

/-! ### The detail of an entry -/

variable (py)

/-- What the loop over the lines of an entry ends with. -/
def secretOf (text : List Char) : Secret :=
  ((stripChars text).splitOnP isLineBreak).foldl (secretStep py) {}

/-- The lines for the buyer, as one text. -/
def infoOf (s : Secret) : List Char := stripChars (joinChars ['\n'] (emailDetails py s).2)

/-- The detail of what was read. -/
def detailOf (s : Secret) : Json :=
  let info := (infoOf py s).take additionalInfoMax
  .dict [
    ("accountDetails", .dict [("accountLogin", .str s.login), ("accountPassword", .str s.password)]),
    ("emailDetails", (emailDetails py s).1), ("mfaDetails", .null),
    ("additionalInfo", if info = [] then .null else .str info)]

variable {py}

/-- **When a text is converted, and to what.** -/
theorem secretText_eq_some_iff {text : List Char} {detail : Json} :
    secretTextToDeliveryDetail py text = some detail ↔
      (secretOf py text).login ≠ [] ∧ (secretOf py text).password ≠ [] ∧
        detail = detailOf py (secretOf py text) := by
  have hblank : stripChars text = [] → (secretOf py text).login = [] := by
    intro h
    unfold secretOf
    rw [h]
    rfl
  unfold secretTextToDeliveryDetail
  dsimp only
  by_cases htext : stripChars text = []
  · rw [if_pos htext]
    exact iff_of_false nofun fun h => h.1 (hblank htext)
  rw [if_neg htext]
  show (if (secretOf py text).login = [] ∨ (secretOf py text).password = [] then none
    else some (detailOf py (secretOf py text))) = some detail ↔ _
  by_cases hlogin : (secretOf py text).login = [] ∨ (secretOf py text).password = []
  · rw [if_pos hlogin]
    exact iff_of_false nofun fun h => hlogin.elim h.1 h.2.1
  · rw [if_neg hlogin]
    rw [not_or] at hlogin
    constructor
    · intro h
      exact ⟨hlogin.1, hlogin.2, (Option.some.inj h).symm⟩
    · rintro ⟨-, -, rfl⟩
      rfl

end Sda.DeliveryDetails
