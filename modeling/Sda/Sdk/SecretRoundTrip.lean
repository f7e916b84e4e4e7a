/-
Sda/Sdk/SecretRoundTrip.lean

From a credential bundle to the delivery detail, by way of the secret text
(payload_pipeline/core/contracts.py and delivery_details.py).

The text has a block of lines for the account, for the email, for the second factor and for the note,
each behind a header, with an empty line in between.  Read line by line, the account and the email
fill the fields (`foldl_fields`), the other two are left over (`foldl_left`), so that the reader ends
with the values of the bundle (`secretOf_secret`).

Main result: `secret_roundTrip` — what of the bundle is in the detail.
-/
import Sda.Lib.Strip
import Sda.Pool.CredentialBundle
import Sda.Sdk.DeliveryLoss

namespace Sda.DeliveryDetails

open Templates (Python asciiPython)

/-! ### Blocks of lines -/

/-- A line that is read as it stands. -/
structure PlainLine (line : List Char) : Prop where
  ne : line ≠ []
  oneLine : ∀ c ∈ line, isLineBreak c = false
  trimmed : Trimmed line

/-- A block has lines, and they are plain. -/
def IsBlock (block : List (List Char)) : Prop := block ≠ [] ∧ ∀ line ∈ block, PlainLine line

variable {py : Python} {block : List (List Char)} {blocks : List (List (List Char))}

/-- Blocks with an empty line in between. -/
def secretText (blocks : List (List (List Char))) : List Char :=
  joinChars "\n\n".toList (blocks.map unlines)

theorem splitOnP_unlines (h : ∀ line ∈ block, PlainLine line) (hne : block ≠ []) :
    (unlines block).splitOnP isLineBreak = block := by
  induction block with
  | nil => exact absurd rfl hne
  | cons line block ih =>
    have hline := (h line List.mem_cons_self).oneLine
    rcases eq_or_ne block [] with rfl | hblock
    · rw [unlines_single, splitOnP_oneLine hline]
    · rw [unlines_cons hblock, splitOnP_line hline,
        ih (fun l hl => h l (List.mem_cons_of_mem line hl)) hblock]

theorem splitOnP_unlines_append (h : ∀ line ∈ block, PlainLine line) (hne : block ≠ [])
    (y : List Char) :
    (unlines block ++ '\n' :: y).splitOnP isLineBreak = block ++ y.splitOnP isLineBreak := by
  induction block with
  | nil => exact absurd rfl hne
  | cons line block ih =>
    have hline := (h line List.mem_cons_self).oneLine
    rcases eq_or_ne block [] with rfl | hblock
    · rw [unlines_single, splitOnP_line hline]
      rfl
    · rw [unlines_cons hblock, List.append_assoc, List.cons_append, splitOnP_line hline,
        ih (fun l hl => h l (List.mem_cons_of_mem line hl)) hblock]
      rfl

/-- Nothing is stripped off the text. -/
theorem trimmed_secretText (h : ∀ block ∈ blocks, IsBlock block) :
    Trimmed (secretText blocks) := by
  have hne : ∀ block ∈ blocks, ∀ line ∈ block, line ≠ [] := fun block hblock line hline =>
    ((h block hblock).2 line hline).ne
  refine trimmed_intercalate ?_ ?_
  · intro text htext
    obtain ⟨block, hblock, rfl⟩ := List.mem_map.mp htext
    exact trimmed_intercalate (fun line hline => ((h block hblock).2 line hline).trimmed)
      (hne block hblock)
  · intro text htext
    obtain ⟨block, hblock, rfl⟩ := List.mem_map.mp htext
    exact intercalate_ne_nil (hne block hblock) (h block hblock).1

/-- **The blocks are read one after the other.**  The induction is on the blocks; the empty lines
between them do nothing. -/
theorem foldl_secretText (h : ∀ block ∈ blocks, IsBlock block) (s : Secret) :
    ((secretText blocks).splitOnP isLineBreak).foldl (secretStep py) s =
      blocks.flatten.foldl (secretStep py) s := by
  have hblank : ∀ s, secretStep py s [] = s := by
    intro s
    rw [secretStep_eq]
    exact if_pos rfl
  induction blocks generalizing s with
  | nil => exact hblank s
  | cons block blocks ih =>
    obtain ⟨hne, hplain⟩ := h block List.mem_cons_self
    rcases eq_or_ne blocks [] with rfl | hrest
    · have htext : secretText [block] = unlines block := by
        unfold secretText joinChars
        rw [List.map_singleton, List.intercalate_singleton]
      rw [htext, splitOnP_unlines hplain hne]
      simp
    · have htext : secretText (block :: blocks) =
          unlines block ++ '\n' :: '\n' :: secretText blocks := by
        have hmap : blocks.map unlines ≠ [] := by simpa using hrest
        unfold secretText joinChars
        rw [List.map_cons, List.intercalate_cons_of_ne_nil hmap, List.append_assoc]
        rfl
      have hbreak : ('\n' :: secretText blocks).splitOnP isLineBreak =
          [] :: (secretText blocks).splitOnP isLineBreak := splitOnP_line (x := []) nofun
      rw [htext, splitOnP_unlines_append hplain hne, hbreak, List.foldl_append, List.foldl_cons,
        hblank, ih (fun b hb => h b (List.mem_cons_of_mem block hb)), List.flatten_cons,
        List.foldl_append]

/-! ### Labelled lines -/

/-- A label as the bundle writes them. -/
structure IsLabel (label : String) : Prop where
  ascii : ∀ c ∈ label.toList, c.toNat < 128
  plain : ∀ c ∈ label.toList, isLineBreak c = false ∧ c ≠ ':'
  short : 1 ≤ label.toList.length ∧ label.toList.length ≤ 40
  trimmed : Trimmed label.toList

variable {label : String} {value : List Char} {f : SecretField}

theorem stored_trimmed (h : Stored value) : Trimmed value := by
  obtain ⟨-, -, -, -, -, htrimmed⟩ := stripChars_split value
  rw [h.stripped] at htrimmed
  exact htrimmed

theorem plainLine_stored (h : Stored value) : PlainLine value :=
  ⟨h.ne, h.oneLine, stored_trimmed h⟩

theorem plainLine_labeled (hlabel : IsLabel label) (h : Stored value) :
    PlainLine (labeledLine label value) := by
  have hne : label.toList ≠ [] := by
    intro hnil
    have := hlabel.short.1
    rw [hnil] at this
    cases this
  refine ⟨by simp [labeledLine], ?_, ?_, ?_⟩
  · intro c hc
    unfold labeledLine at hc
    rcases List.mem_append.mp hc with hc | hc
    · exact (hlabel.plain c hc).1
    rcases List.mem_cons.mp hc with rfl | hc
    · decide
    rcases List.mem_cons.mp hc with rfl | hc
    · decide
    · exact h.oneLine c hc
  · rw [labeledLine, List.head?_append_of_ne_nil _ hne]
    exact hlabel.trimmed.front
  · have hback : (':' :: ' ' :: value).getLast? = value.getLast? := by
      rw [show ':' :: ' ' :: value = [':', ' '] ++ value from rfl,
        List.getLast?_append_of_ne_nil _ h.ne]
    rw [labeledLine, List.getLast?_append_of_ne_nil _ (List.cons_ne_nil _ _), hback]
    exact (stored_trimmed h).back

/-- A colon with a blank behind it is in no header. -/
theorem headerOf_labeled (hpy : LowersAscii py) (hlabel : IsLabel label) (h : Stored value) :
    headerOf py (labeledLine label value) = none := by
  have hascii : ∀ c ∈ label.toList ++ [':'], c.toNat < 128 := by
    intro c hc
    rcases List.mem_append.mp hc with hc | hc
    · exact hlabel.ascii c hc
    · rw [List.mem_singleton.mp hc]
      decide
  have hsplit : labeledLine label value = (label.toList ++ [':']) ++ ' ' :: value := by
    simp [labeledLine]
  have hlower : py.lower (labeledLine label value) =
      label.toList.map Char.toLower ++ ':' :: ' ' :: py.lower value := by
    rw [hsplit, hpy.lower_blank, hpy.lower_ascii _ hascii, List.map_append, List.append_assoc]
    rfl
  unfold headerOf
  split
  · rfl
  rw [(plainLine_labeled hlabel h).trimmed.stripChars, hlower, List.lookup_eq_none_iff]
  intro p hp
  have hnone : ':' ∉ p.1 := by
    have hall : sectionHeaders.all (fun p => !p.1.contains ':') = true := by decide +kernel
    simpa using List.all_eq_true.mp hall p hp
  simp only [bne_iff_ne, ne_eq]
  intro heq
  apply hnone
  rw [← heq]
  -- the blank stops the stripping
  obtain ⟨y, hy⟩ := rdropWhile_cons (p := (· == ':')) (c := ' ') rfl (py.lower value)
  have hkept : (label.toList.map Char.toLower ++ ':' :: ' ' :: py.lower value).rdropWhile
      (· == ':') = label.toList.map Char.toLower ++ [':'] ++ ' ' :: y := by
    have hne : ' ' :: y ≠ [] := List.cons_ne_nil _ _
    rw [show label.toList.map Char.toLower ++ ':' :: ' ' :: py.lower value =
      (label.toList.map Char.toLower ++ [':']) ++ ' ' :: py.lower value by simp]
    unfold List.rdropWhile at hy ⊢
    rw [List.reverse_append, List.dropWhile_append]
    have hrev : (' ' :: py.lower value).reverse.dropWhile (· == ':') = (' ' :: y).reverse := by
      rw [← hy, List.reverse_reverse]
    rw [hrev]
    simp
  rw [hkept]
  simp

theorem labelLine_labeled (hlabel : IsLabel label) (h : Stored value) :
    labelLine (labeledLine label value) = some (label.toList, value) := by
  have hcolon : ∀ c ∈ label.toList, (c != ':') = true := by
    intro c hc
    simpa using (hlabel.plain c hc).2
  have hback : label.toList.rdropWhile isSpaceChar = label.toList := by
    have hstripped := hlabel.trimmed.stripChars
    exact stripped_back hstripped
  have hblank : stripChars (' ' :: value) = value := h.stripped
  unfold labelLine labeledLine
  rw [List.takeWhile_append_of_pos hcolon, List.dropWhile_append_of_pos hcolon]
  have htake : (':' :: ' ' :: value).takeWhile (· != ':') = [] := rfl
  have hdrop : (':' :: ' ' :: value).dropWhile (· != ':') = ':' :: ' ' :: value := rfl
  rw [htake, hdrop, List.append_nil, hback]
  dsimp only
  rw [if_pos hlabel.short, hblank]

theorem isContent_labeled (hpy : LowersAscii py) (hlabel : IsLabel label) (h : Stored value) :
    IsContent py (labeledLine label value) := by
  have hplain := plainLine_labeled hlabel h
  refine ⟨?_, headerOf_labeled hpy hlabel h⟩
  rw [hplain.trimmed.stripChars]
  exact hplain.ne

/-! ### What the blocks do -/

theorem set_nil {s : Secret} (h : s.get f = []) : s.set [] f = s := by
  obtain ⟨sect, login, password, email, emailPassword, emailUrl, leftovers⟩ := s
  cases f <;> exact (show _ = ([] : List Char) from h) ▸ rfl

theorem labeledLines_cons (label : String) (value : List Char)
    (values : List (String × List Char)) : labeledLines ((label, value) :: values) =
      if value = [] then labeledLines values
      else labeledLine label value :: labeledLines values := by
  unfold labeledLines
  rw [List.filter_cons]
  by_cases h : value = []
  · rw [if_pos h, if_neg (by simpa using h)]
  · rw [if_neg h, if_pos (by simpa using h)]
    rfl

theorem labeledLines_eq_nil_iff {values : List (String × List Char)} :
    labeledLines values = [] ↔ ∀ v ∈ values, v.2 = [] := by
  unfold labeledLines
  rw [List.map_eq_nil_iff, List.filter_eq_nil_iff]
  simp

theorem plainLine_labeledLines {values : List (String × List Char)}
    (hlabels : ∀ v ∈ values, IsLabel v.1) (hstored : ∀ v ∈ values, v.2 ≠ [] → Stored v.2) :
    ∀ line ∈ labeledLines values, PlainLine line := by
  intro line hline
  obtain ⟨v, hv, rfl⟩ := List.mem_map.mp hline
  obtain ⟨hv, hne⟩ := List.mem_filter.mp hv
  exact plainLine_labeled (hlabels v hv) (hstored v hv (by simpa using hne))

/-- **Labelled lines fill the fields** that their labels name in the section. -/
theorem foldl_fields (hpy : LowersAscii py) {sect : Section} {s : Secret}
    (values : List (String × SecretField × List Char)) (hsect : s.sect = some sect)
    (hlabels : ∀ v ∈ values, IsLabel v.1)
    (hnamed : ∀ v ∈ values, ∀ value, Stored value →
      named py (some sect) (labeledLine v.1 value) = some (v.2.1, value))
    (hstored : ∀ v ∈ values, v.2.2 ≠ [] → Stored v.2.2)
    (hempty : ∀ v ∈ values, s.get v.2.1 = []) (hnodup : (values.map (·.2.1)).Nodup) :
    (labeledLines (values.map fun v => (v.1, v.2.2))).foldl (secretStep py) s =
      values.foldl (fun s v => s.set v.2.2 v.2.1) s := by
  induction values generalizing s with
  | nil => rfl
  | cons v values ih =>
    obtain ⟨hnot, hnodup⟩ := List.nodup_cons.mp hnodup
    have hgoes : ∀ s' : Secret, s'.sect = some sect → (∀ w ∈ values, s'.get w.2.1 = []) →
        (labeledLines (values.map fun v => (v.1, v.2.2))).foldl (secretStep py) s' =
          values.foldl (fun s v => s.set v.2.2 v.2.1) s' := fun s' hsect' hempty' =>
      ih hsect' (fun w hw => hlabels w (List.mem_cons_of_mem v hw))
        (fun w hw => hnamed w (List.mem_cons_of_mem v hw))
        (fun w hw => hstored w (List.mem_cons_of_mem v hw)) hempty' hnodup
    have hrest : ∀ w ∈ values, s.get w.2.1 = [] := fun w hw =>
      hempty w (List.mem_cons_of_mem v hw)
    rw [List.map_cons, labeledLines_cons, List.foldl_cons]
    by_cases hvalue : v.2.2 = []
    · rw [if_pos hvalue, hvalue, set_nil (hempty v List.mem_cons_self)]
      exact hgoes s hsect hrest
    · have hv := hstored v List.mem_cons_self hvalue
      have hcontent := isContent_labeled hpy (hlabels v List.mem_cons_self) hv
      rw [if_neg hvalue, List.foldl_cons, secretStep_of_named hcontent
        (hsect ▸ hnamed v List.mem_cons_self _ hv) (hempty v List.mem_cons_self)]
      apply hgoes
      · rw [Secret.sect_set, hsect]
      · intro w hw
        have hother : w.2.1 ≠ v.2.1 := by
          intro heq
          exact hnot (List.mem_map.mpr ⟨w, hw, heq⟩)
        rw [Secret.get_set, if_neg hother]
        exact hrest w hw

/-- **Other lines are left over.** -/
theorem foldl_left {s : Secret} {lines : List (List Char)}
    (hsect : s.sect = some .mfa ∨ s.sect = some .info)
    (hlines : ∀ line ∈ lines, PlainLine line ∧ headerOf py line = none) :
    lines.foldl (secretStep py) s = { s with leftovers := s.leftovers ++ lines } := by
  induction lines generalizing s with
  | nil => simp
  | cons line lines ih =>
    obtain ⟨hplain, hheader⟩ := hlines line List.mem_cons_self
    have hstripped : stripChars line = line := hplain.trimmed.stripChars
    have hcontent : IsContent py line := ⟨by rw [hstripped]; exact hplain.ne, hheader⟩
    have hnone : named py s.sect line = none := by
      unfold named
      cases labelLine (stripChars line) with
      | none => rfl
      | some labeled => rcases hsect with hsect | hsect <;> rw [hsect]
    have hleft : ∀ g value, named py s.sect line = some (g, value) → s.get g ≠ [] := by
      intro g value h
      rw [hnone] at h
      cases h
    have hrest := ih (s := s.leave line) hsect fun l hl => hlines l (List.mem_cons_of_mem line hl)
    rw [List.foldl_cons, secretStep_of_left hcontent hleft, hstripped, hrest]
    simp [Secret.leave]

/-- A block behind a header, if it has lines. -/
def blockOf (header : String) (values : List (String × List Char)) : List (List (List Char)) :=
  if labeledLines values = [] then [] else [header.toList :: labeledLines values]

/-- A header opens its section. -/
structure Opens (header : String) (sect : Section) : Prop where
  label : IsLabel header
  lookup : sectionHeaders.lookup ((header.toList.map Char.toLower).rdropWhile (· == ':')) =
    some sect

theorem secretStep_header (hpy : LowersAscii py) {header : String} {sect : Section}
    (h : Opens header sect) (s : Secret) :
    secretStep py s header.toList = { s with sect := some sect } := by
  have hstripped : stripChars header.toList = header.toList := h.label.trimmed.stripChars
  have hne : ¬stripChars header.toList = [] := by
    intro hnil
    have := h.label.short.1
    rw [← hstripped, hnil] at this
    cases this
  have hheader : headerOf py header.toList = some sect := by
    unfold headerOf
    rw [if_neg hne, hstripped, hpy.lower_ascii _ h.label.ascii, h.lookup]
  rw [secretStep_eq, if_neg hne, hheader]

theorem plainLine_header {header : String} (h : IsLabel header) : PlainLine header.toList := by
  refine ⟨?_, fun c hc => (h.plain c hc).1, h.trimmed⟩
  intro hnil
  have := h.short.1
  rw [hnil] at this
  cases this

theorem isBlock_of_mem_blockOf {header : String} {values : List (String × List Char)}
    (hheader : IsLabel header) (hlines : ∀ line ∈ labeledLines values, PlainLine line) :
    ∀ block ∈ blockOf header values, IsBlock block := by
  intro block hblock
  unfold blockOf at hblock
  split at hblock
  · cases hblock
  · rw [List.mem_singleton.mp hblock]
    refine ⟨List.cons_ne_nil _ _, fun line hline => ?_⟩
    rcases List.mem_cons.mp hline with rfl | hline
    · exact plainLine_header hheader
    · exact hlines line hline

theorem foldl_blockOf (hpy : LowersAscii py) {header : String} {sect : Section}
    (h : Opens header sect) (values : List (String × List Char)) (s : Secret) :
    (blockOf header values).flatten.foldl (secretStep py) s =
      if labeledLines values = [] then s
      else (labeledLines values).foldl (secretStep py) { s with sect := some sect } := by
  unfold blockOf
  split
  · rfl
  · rw [List.flatten_singleton, List.foldl_cons, secretStep_header hpy h]

theorem sectionOf_eq (header : String) (values : List (String × List Char)) :
    CredentialBundle.sectionOf header values = (blockOf header values).map unlines := by
  unfold CredentialBundle.sectionOf blockOf
  split <;> rfl

/-! ### The headers and labels of a bundle -/

/-- What the characters of a text say of it as a label. -/
def labelTest (label : String) : Bool :=
  label.toList.all (fun c => c.toNat < 128 && !isLineBreak c && c != ':') &&
    decide (1 ≤ label.toList.length ∧ label.toList.length ≤ 40) &&
    !label.toList.head?.any isSpaceChar && !label.toList.getLast?.any isSpaceChar

theorem isLabel_of {label : String} (h : labelTest label = true) : IsLabel label := by
  unfold labelTest at h
  simp only [Bool.and_eq_true, List.all_eq_true, decide_eq_true_eq, Bool.not_eq_true',
    bne_iff_ne] at h
  obtain ⟨⟨⟨hall, hshort⟩, hhead⟩, hlast⟩ := h
  exact ⟨fun c hc => (hall c hc).1.1, fun c hc => ⟨(hall c hc).1.2, (hall c hc).2⟩, hshort,
    ⟨hhead, hlast⟩⟩

theorem isLabel_of_mem {label : String} (h : label ∈ ["Login", "Password", "Provider URL"]) :
    IsLabel label := by
  have hall : ["Login", "Password", "Provider URL"].all labelTest = true := by decide +kernel
  exact isLabel_of (List.all_eq_true.mp hall label h)

theorem isLabel_login : IsLabel "Login" := isLabel_of_mem (by simp)

theorem isLabel_password : IsLabel "Password" := isLabel_of_mem (by simp)

theorem isLabel_url : IsLabel "Provider URL" := isLabel_of_mem (by simp)

/-- The headers of a bundle, each with the section that it opens. -/
def bundleHeaders : List (String × Section) :=
  [("Account details", .account), ("Email details", .email), ("2FA details", .mfa),
    ("Additional information", .info)]

theorem opens_of_mem {header : String} {sect : Section} (h : (header, sect) ∈ bundleHeaders) :
    Opens header sect := by
  have hall : (bundleHeaders.all fun h => labelTest h.1 && decide (sectionHeaders.lookup
      ((h.1.toList.map Char.toLower).rdropWhile (· == ':')) = some h.2)) = true := by
    decide +kernel
  have hmem := List.all_eq_true.mp hall (header, sect) h
  rw [Bool.and_eq_true, decide_eq_true_eq] at hmem
  exact ⟨isLabel_of hmem.1, hmem.2⟩

theorem opens_account : Opens "Account details" .account := opens_of_mem (by simp [bundleHeaders])

theorem opens_email : Opens "Email details" .email := opens_of_mem (by simp [bundleHeaders])

theorem opens_mfa : Opens "2FA details" .mfa := opens_of_mem (by simp [bundleHeaders])

theorem opens_info : Opens "Additional information" .info :=
  opens_of_mem (by simp [bundleHeaders])

/-- The field of a label in the account section. -/
theorem named_account (hpy : LowersAscii py) (hlabel : IsLabel label)
    (hfield : accountField (label.toList.map Char.toLower) = some f) (h : Stored value) :
    named py (some .account) (labeledLine label value) = some (f, value) := by
  have hstripped := (plainLine_labeled hlabel h).trimmed.stripChars
  unfold named
  rw [hstripped, labelLine_labeled hlabel h]
  dsimp only
  rw [if_neg h.ne, hpy.lower_ascii _ hlabel.ascii, hfield]
  rfl

/-- The field of a label in the section for the email. -/
theorem named_email (hpy : LowersAscii py) (hlabel : IsLabel label)
    (hfield : emailField (label.toList.map Char.toLower) = some f) (h : Stored value) :
    named py (some .email) (labeledLine label value) = some (f, value) := by
  have hstripped := (plainLine_labeled hlabel h).trimmed.stripChars
  unfold named
  rw [hstripped, labelLine_labeled hlabel h]
  dsimp only
  rw [hpy.lower_ascii _ hlabel.ascii, hfield]
  rfl

/-! ### The bundle -/

section Bundle

variable (b : CredentialBundle)

/-- The values of a bundle are stored values. -/
def StoredBundle : Prop := ∀ v ∈ b.additionalInfo :: b.values, v ≠ [] → Stored v

/-- The block with the note. -/
def noteBlock : List (List (List Char)) :=
  if b.additionalInfo = [] then [] else [["Additional information".toList, b.additionalInfo]]

def accountValues : List (String × SecretField × List Char) :=
  [("Login", .login, b.login), ("Password", .password, b.password)]

def emailValues : List (String × SecretField × List Char) :=
  [("Provider URL", .emailUrl, b.emailLoginLink), ("Login", .email, b.emailLogin),
    ("Password", .emailPassword, b.emailPassword)]

def mfaValues : List (String × List Char) :=
  [("Login", b.securityEmail), ("Password", b.securityEmailPassword)]

/-- All blocks of the secret text. -/
def bundleBlocks : List (List (List Char)) :=
  blockOf "Account details" ((accountValues b).map fun v => (v.1, v.2.2)) ++
    (blockOf "Email details" ((emailValues b).map fun v => (v.1, v.2.2)) ++
      (blockOf "2FA details" (mfaValues b) ++ noteBlock b))

/-- The note, where the reader does not take it for a header. -/
def noteLines (py : Python) : List (List Char) :=
  if b.additionalInfo = [] ∨ headerOf py b.additionalInfo ≠ none then [] else [b.additionalInfo]

variable {b} {text : List Char}

theorem secretText_of_ok (hb : StoredBundle b) {lower : List Char → List Char}
    (h : b.toEldoradoAccountSecret lower = .ok text) : text = secretText (bundleBlocks b) := by
  have hnote : stripChars b.additionalInfo = b.additionalInfo := by
    by_cases hnil : b.additionalInfo = []
    · rw [hnil]
      rfl
    · exact (hb _ List.mem_cons_self hnil).stripped
  have hsections : b.secretSections ++ (noteBlock b).map unlines =
      (bundleBlocks b).map unlines := by
    unfold CredentialBundle.secretSections CredentialBundle.moreSections bundleBlocks
    rw [sectionOf_eq, sectionOf_eq, sectionOf_eq]
    simp only [List.map_append, List.append_assoc]
    rfl
  unfold CredentialBundle.toEldoradoAccountSecret at h
  rw [hnote] at h
  dsimp only at h
  unfold secretText
  rw [← hsections]
  unfold noteBlock
  split at h
  · next hnil =>
    rw [if_pos hnil, List.map_nil, List.append_nil]
    exact (Except.ok.inj h).symm
  · next hne =>
    split at h
    · cases h
    · rw [if_neg hne]
      exact (Except.ok.inj h).symm

theorem stored_value (hb : StoredBundle b) (h : value ∈ b.values) (hne : value ≠ []) :
    Stored value := hb value (List.mem_cons_of_mem _ h) hne

theorem isBlock_bundleBlocks (hb : StoredBundle b) :
    ∀ block ∈ bundleBlocks b, IsBlock block := by
  have hvalue : ∀ v ∈ b.values, v ≠ [] → Stored v := fun v hv => stored_value hb hv
  intro block hblock
  rcases List.mem_append.mp hblock with hblock | hblock
  · refine isBlock_of_mem_blockOf opens_account.label (plainLine_labeledLines ?_ ?_) _ hblock
    · simp [accountValues, isLabel_login, isLabel_password]
    · simpa [accountValues] using ⟨hvalue _ (by simp [CredentialBundle.values]),
        hvalue _ (by simp [CredentialBundle.values])⟩
  rcases List.mem_append.mp hblock with hblock | hblock
  · refine isBlock_of_mem_blockOf opens_email.label (plainLine_labeledLines ?_ ?_) _ hblock
    · simp [emailValues, isLabel_login, isLabel_password, isLabel_url]
    · simpa [emailValues] using ⟨hvalue _ (by simp [CredentialBundle.values]),
        hvalue _ (by simp [CredentialBundle.values]), hvalue _ (by simp [CredentialBundle.values])⟩
  rcases List.mem_append.mp hblock with hblock | hblock
  · refine isBlock_of_mem_blockOf opens_mfa.label (plainLine_labeledLines ?_ ?_) _ hblock
    · simp [mfaValues, isLabel_login, isLabel_password]
    · simpa [mfaValues] using ⟨hvalue _ (by simp [CredentialBundle.values]),
        hvalue _ (by simp [CredentialBundle.values])⟩
  · unfold noteBlock at hblock
    split at hblock
    · cases hblock
    · next hne =>
      rw [List.mem_singleton.mp hblock]
      refine ⟨List.cons_ne_nil _ _, ?_⟩
      intro line hline
      rcases List.mem_cons.mp hline with rfl | hline
      · exact plainLine_header opens_info.label
      · rw [List.mem_singleton.mp hline]
        exact plainLine_stored (hb _ List.mem_cons_self hne)

/-! ### What is read of a bundle -/

theorem foldl_account (hpy : LowersAscii py) (hb : StoredBundle b) (hlogin : b.login ≠ []) :
    (blockOf "Account details" ((accountValues b).map fun v => (v.1, v.2.2))).flatten.foldl
        (secretStep py) {} =
      { sect := some .account, login := b.login, password := b.password } := by
  have hlines : labeledLines ((accountValues b).map fun v => (v.1, v.2.2)) ≠ [] := fun hnil =>
    hlogin (labeledLines_eq_nil_iff.mp hnil ("Login", b.login) List.mem_cons_self)
  rw [foldl_blockOf hpy opens_account, if_neg hlines, foldl_fields hpy (accountValues b) rfl]
  · rfl
  · simp [accountValues, isLabel_login, isLabel_password]
  · intro v hv value h
    have hfields : accountField ("Login".toList.map Char.toLower) = some .login ∧
        accountField ("Password".toList.map Char.toLower) = some .password := by decide +kernel
    rcases List.mem_pair.mp hv with rfl | rfl
    · exact named_account hpy isLabel_login hfields.1 h
    · exact named_account hpy isLabel_password hfields.2 h
  · intro v hv
    rcases List.mem_pair.mp hv with rfl | rfl
    · exact stored_value hb (by simp [CredentialBundle.values])
    · exact stored_value hb (by simp [CredentialBundle.values])
  · intro v hv
    rcases List.mem_pair.mp hv with rfl | rfl <;> rfl
  · show [SecretField.login, .password].Nodup
    decide

theorem foldl_email (hpy : LowersAscii py) (hb : StoredBundle b) {s : Secret}
    (hs : s.email = [] ∧ s.emailPassword = [] ∧ s.emailUrl = []) :
    ∃ sect, (blockOf "Email details" ((emailValues b).map fun v => (v.1, v.2.2))).flatten.foldl
        (secretStep py) s =
      { s with
        sect := sect
        email := b.emailLogin
        emailPassword := b.emailPassword
        emailUrl := b.emailLoginLink } := by
  rw [foldl_blockOf hpy opens_email]
  split
  · next hnil =>
    -- no line, no email
    have hempty := labeledLines_eq_nil_iff.mp hnil
    have hlink : b.emailLoginLink = [] := hempty ("Provider URL", _) (by simp [emailValues])
    have hemail : b.emailLogin = [] := hempty ("Login", _) (by simp [emailValues])
    have hpassword : b.emailPassword = [] := hempty ("Password", _) (by simp [emailValues])
    obtain ⟨sect, login, password, email, emailPassword, emailUrl, leftovers⟩ := s
    obtain ⟨rfl, rfl, rfl⟩ : email = [] ∧ emailPassword = [] ∧ emailUrl = [] := hs
    refine ⟨sect, ?_⟩
    rw [hlink, hemail, hpassword]
  · refine ⟨some .email, ?_⟩
    rw [foldl_fields hpy (emailValues b) rfl]
    · rfl
    · simp [emailValues, isLabel_login, isLabel_password, isLabel_url]
    · intro v hv value h
      have hfields : emailField ("Provider URL".toList.map Char.toLower) = some .emailUrl ∧
          emailField ("Login".toList.map Char.toLower) = some .email ∧
          emailField ("Password".toList.map Char.toLower) = some .emailPassword := by
        decide +kernel
      simp only [emailValues, List.mem_cons, List.not_mem_nil, or_false] at hv
      rcases hv with rfl | rfl | rfl
      · exact named_email hpy isLabel_url hfields.1 h
      · exact named_email hpy isLabel_login hfields.2.1 h
      · exact named_email hpy isLabel_password hfields.2.2 h
    · intro v hv
      simp only [emailValues, List.mem_cons, List.not_mem_nil, or_false] at hv
      rcases hv with rfl | rfl | rfl
      · exact stored_value hb (by simp [CredentialBundle.values])
      · exact stored_value hb (by simp [CredentialBundle.values])
      · exact stored_value hb (by simp [CredentialBundle.values])
    · intro v hv
      simp only [emailValues, List.mem_cons, List.not_mem_nil, or_false] at hv
      rcases hv with rfl | rfl | rfl
      · exact hs.2.2
      · exact hs.1
      · exact hs.2.1
    · show [SecretField.emailUrl, .email, .emailPassword].Nodup
      decide

theorem foldl_mfa (hpy : LowersAscii py) (hb : StoredBundle b) (s : Secret) :
    ∃ sect, (blockOf "2FA details" (mfaValues b)).flatten.foldl (secretStep py) s =
      { s with sect := sect, leftovers := s.leftovers ++ labeledLines (mfaValues b) } := by
  rw [foldl_blockOf hpy opens_mfa]
  split
  · next hnil => exact ⟨s.sect, by rw [hnil, List.append_nil]⟩
  · refine ⟨some .mfa, foldl_left (Or.inl rfl) ?_⟩
    intro line hline
    obtain ⟨v, hv, rfl⟩ := List.mem_map.mp hline
    obtain ⟨hv, hne⟩ := List.mem_filter.mp hv
    have hne : v.2 ≠ [] := by simpa using hne
    rcases List.mem_pair.mp hv with rfl | rfl
    · have hstored := stored_value hb (by simp [CredentialBundle.values]) hne
      exact ⟨plainLine_labeled isLabel_login hstored, headerOf_labeled hpy isLabel_login hstored⟩
    · have hstored := stored_value hb (by simp [CredentialBundle.values]) hne
      exact ⟨plainLine_labeled isLabel_password hstored,
        headerOf_labeled hpy isLabel_password hstored⟩

theorem foldl_note (hpy : LowersAscii py) (hb : StoredBundle b) (s : Secret) :
    ∃ sect, (noteBlock b).flatten.foldl (secretStep py) s =
      { s with sect := sect, leftovers := s.leftovers ++ noteLines b py } := by
  unfold noteBlock noteLines
  by_cases hnil : b.additionalInfo = []
  · rw [if_pos hnil, if_pos (Or.inl hnil)]
    exact ⟨s.sect, by simp⟩
  rw [if_neg hnil, List.flatten_singleton, List.foldl_cons, secretStep_header hpy opens_info]
  have hplain := plainLine_stored (hb _ List.mem_cons_self hnil)
  cases hheader : headerOf py b.additionalInfo with
  | none =>
    rw [if_neg fun h => h.elim hnil (· rfl)]
    refine ⟨some .info, foldl_left (Or.inr rfl) ?_⟩
    intro line hline
    rw [List.mem_singleton.mp hline]
    exact ⟨hplain, hheader⟩
  | some sect =>
    rw [if_pos (Or.inr nofun)]
    refine ⟨some sect, ?_⟩
    show secretStep py _ b.additionalInfo = _
    rw [secretStep_eq, if_neg (by rw [hplain.trimmed.stripChars]; exact hnil), hheader]
    simp

/-- **The reader ends with the values of the bundle.** -/
theorem secretOf_secret (hpy : LowersAscii py) (hb : StoredBundle b) (hlogin : b.login ≠ [])
    (h : b.toEldoradoAccountSecret py.lower = .ok text) :
    ∃ sect, secretOf py text =
      { sect := sect
        login := b.login
        password := b.password
        email := b.emailLogin
        emailPassword := b.emailPassword
        emailUrl := b.emailLoginLink
        leftovers := labeledLines (mfaValues b) ++ noteLines b py } := by
  have hblocks := isBlock_bundleBlocks hb
  unfold secretOf
  rw [secretText_of_ok hb h, (trimmed_secretText hblocks).stripChars, foldl_secretText hblocks]
  unfold bundleBlocks
  rw [List.flatten_append, List.flatten_append, List.flatten_append, List.foldl_append,
    List.foldl_append, List.foldl_append, foldl_account hpy hb hlogin]
  obtain ⟨sect₁, hemail⟩ := @foldl_email py b hpy hb
    ⟨some .account, b.login, b.password, [], [], [], []⟩ ⟨rfl, rfl, rfl⟩
  rw [hemail]
  obtain ⟨sect₂, hmfa⟩ := foldl_mfa hpy hb _
  rw [hmfa]
  obtain ⟨sect₃, hnote⟩ := foldl_note hpy hb _
  rw [hnote]
  exact ⟨sect₃, rfl⟩

/-! ### What of the bundle is in the detail -/

/-- The link, with a scheme. -/
theorem providerUrl_link {email link url : List Char} (hlink : Stored link)
    (h : providerUrl py email link = some url) : url = link ∨ url = "https://".toList ++ link := by
  unfold providerUrl at h
  rw [hlink.stripped] at h
  dsimp only at h
  rw [if_pos hlink.ne] at h
  cases h
  split
  · exact Or.inl rfl
  · exact Or.inr rfl

/-- **From the bundle to the detail.**  Login and password are those of the bundle; the email, if it
is there, too, with the address that the link stands for; and if the lines for the buyer fit, every
other value is in the detail, the link if it comes with an email or its password, and the note if it
does not read like a header. -/
theorem secret_roundTrip (py : Python) (hpy : LowersAscii py) (b : CredentialBundle)
    (hb : StoredBundle b) (hlogin : b.login ≠ []) (hpassword : b.password ≠ [])
    (text : List Char) (h : b.toEldoradoAccountSecret py.lower = .ok text) :
    ∃ detail, secretTextToDeliveryDetail py text = some detail ∧
      detail.at_ ["accountDetails", "accountLogin"] = .str b.login ∧
      detail.at_ ["accountDetails", "accountPassword"] = .str b.password ∧
      (detail.at_ ["emailDetails"] = .null ∨ ∃ url,
        detail.at_ ["emailDetails"] = .dict [("emailLogin", .str b.emailLogin),
          ("emailPassword", .str b.emailPassword), ("emailProviderUrl", .str url)] ∧
        providerUrl py b.emailLogin b.emailLoginLink = some url ∧
        (b.emailLoginLink ≠ [] → url = b.emailLoginLink ∨
          url = "https://".toList ++ b.emailLoginLink)) ∧
      (InfoFits py text →
        (∀ v ∈ [b.emailLogin, b.emailPassword, b.securityEmail, b.securityEmailPassword],
          Shows detail v) ∧
        (b.emailLogin ≠ [] ∨ b.emailPassword ≠ [] → Shows detail b.emailLoginLink) ∧
        (headerOf py b.additionalInfo = none → Shows detail b.additionalInfo)) := by
  obtain ⟨sect, hread⟩ := secretOf_secret hpy hb hlogin h
  have hdetail : secretTextToDeliveryDetail py text = some (detailOf py (secretOf py text)) := by
    refine secretText_eq_some_iff.mpr ⟨?_, ?_, rfl⟩
    · rw [hread]
      exact hlogin
    · rw [hread]
      exact hpassword
  refine ⟨detailOf py (secretOf py text), hdetail, ?_, ?_, ?_, ?_⟩
  · show Json.str (secretOf py text).login = _
    rw [hread]
  · show Json.str (secretOf py text).password = _
    rw [hread]
  · show (emailDetails py (secretOf py text)).1 = .null ∨ ∃ url,
      (emailDetails py (secretOf py text)).1 = _ ∧ _
    rcases emailDetails_cases py (secretOf py text) with
      ⟨url, -, -, -, hurl, heq⟩ | ⟨-, -, heq⟩ | ⟨-, heq⟩
    · right
      rw [hread] at hurl heq ⊢
      refine ⟨url, by rw [heq], hurl, fun hlink => ?_⟩
      exact providerUrl_link (stored_value hb (by simp [CredentialBundle.values]) hlink) hurl
    · left
      rw [heq]
    · left
      rw [heq]
  · intro hfits
    have hfield : ∀ f v, (secretOf py text).get f = v → v ∈ b.values →
        (f = .emailUrl → b.emailLogin ≠ [] ∨ b.emailPassword ≠ []) →
        Shows (detailOf py (secretOf py text)) v := by
      intro f v hget hv hlink
      by_cases hnil : v = []
      · rw [hnil]
        exact shows_login List.nil_infix
      · rw [← hget]
        refine shows_get hfits ?_ ?_
        · rw [hget]
          exact stored_value hb hv hnil
        · rw [hread]
          exact hlink
    have hleft : ∀ line v, line ∈ labeledLines (mfaValues b) ++ noteLines b py → Stored v →
        v <:+: line → Shows (detailOf py (secretOf py text)) v := by
      intro line v hline hv hpart
      refine shows_info hfits hv.stripped (left_mem_info ?_) hpart
      rw [hread]
      exact hline
    refine ⟨?_, fun hemail => ?_, fun hheader => ?_⟩
    · have hmfa : ∀ label v, (label, v) ∈ mfaValues b → v ∈ b.values →
          Shows (detailOf py (secretOf py text)) v := by
        intro label v hmem hv
        by_cases hnil : v = []
        · rw [hnil]
          exact shows_login List.nil_infix
        · refine hleft (labeledLine label v) v (List.mem_append_left _ ?_)
            (stored_value hb hv hnil) ?_
          · exact List.mem_map.mpr ⟨(label, v), List.mem_filter.mpr ⟨hmem, by simpa using hnil⟩, rfl⟩
          · exact ((List.suffix_cons _ _).trans
              ((List.suffix_cons _ _).trans (List.suffix_append _ _))).isInfix
      intro v hv
      simp only [List.mem_cons, List.not_mem_nil, or_false] at hv
      rcases hv with rfl | rfl | rfl | rfl
      · exact hfield .email _ (by rw [hread]; rfl) (by simp [CredentialBundle.values]) nofun
      · exact hfield .emailPassword _ (by rw [hread]; rfl) (by simp [CredentialBundle.values]) nofun
      · exact hmfa "Login" _ (by simp [mfaValues]) (by simp [CredentialBundle.values])
      · exact hmfa "Password" _ (by simp [mfaValues]) (by simp [CredentialBundle.values])
    · exact hfield .emailUrl _ (by rw [hread]; rfl) (by simp [CredentialBundle.values])
        fun _ => hemail
    · by_cases hnil : b.additionalInfo = []
      · rw [hnil]
        exact shows_login List.nil_infix
      · refine hleft b.additionalInfo _ (List.mem_append_right _ ?_)
          (hb _ List.mem_cons_self hnil) (List.infix_refl _)
        rw [noteLines, if_neg fun h => h.elim hnil (· hheader)]
        exact List.mem_singleton_self _

end Bundle

/-! ### Two bundles -/

/-- An account with a note. -/
def noted : CredentialBundle :=
  { login := "kevin".toList
    password := "a:b".toList
    emailLogin := "kevin@mail.example".toList
    emailPassword := "Mail2!".toList
    emailLoginLink := "mail.example".toList
    securityEmail := "s@mail.example".toList
    additionalInfo := "Region: EU".toList }

theorem secret_roundTrip_at_noted : ∃ detail,
    secretTextToDeliveryDetail asciiPython (secretText (bundleBlocks noted)) = some detail ∧
      Shows detail "Region: EU".toList := by
  have hvalues : ∀ v ∈ noted.additionalInfo :: noted.values, v ≠ [] →
      v ≠ [] ∧ (v.all fun c => !isLineBreak c) = true ∧ stripChars v = v := by decide +kernel
  have hb : StoredBundle noted := by
    intro v hv hne
    obtain ⟨hne, hline, hstripped⟩ := hvalues v hv hne
    exact ⟨hne, fun c hc => by simpa using List.all_eq_true.mp hline c hc, hstripped⟩
  have henc : noted.toEldoradoAccountSecret asciiPython.lower =
      .ok (secretText (bundleBlocks noted)) := rfl
  obtain ⟨detail, hdetail, -, -, -, hshows⟩ := secret_roundTrip asciiPython
    lowersAscii_asciiPython noted hb (by decide) (by decide) _ henc
  have hfits : InfoFits asciiPython (secretText (bundleBlocks noted)) := by
    unfold InfoFits
    decide +kernel
  exact ⟨detail, hdetail, (hshows hfits).2.2 (by decide +kernel)⟩

/-- An account with an email of a known provider, and no link. -/
def unlinked : CredentialBundle :=
  { login := "kevin".toList
    password := "Secret1!".toList
    emailLogin := "kevin@gmail.com".toList
    emailPassword := "Mail2!".toList }

/-- The email has an address that the bundle has not. -/
theorem provider_url_added : ∃ text detail,
    unlinked.toEldoradoAccountSecret asciiPython.lower = .ok text ∧
      secretTextToDeliveryDetail asciiPython text = some detail ∧
      detail.at_ ["emailDetails", "emailProviderUrl"] = .str "https://mail.google.com".toList ∧
      unlinked.emailLoginLink = [] := by
  have henc : unlinked.toEldoradoAccountSecret asciiPython.lower =
      .ok (secretText (bundleBlocks unlinked)) := rfl
  refine ⟨_, detailOf asciiPython (secretOf asciiPython (secretText (bundleBlocks unlinked))), henc,
    secretText_eq_some_iff.mpr ⟨by decide +kernel, by decide +kernel, rfl⟩, ?_, rfl⟩
  have hread : secretOf asciiPython (secretText (bundleBlocks unlinked)) =
      { sect := some .email
        login := "kevin".toList
        password := "Secret1!".toList
        email := "kevin@gmail.com".toList
        emailPassword := "Mail2!".toList } := by
    decide +kernel
  rw [hread]
  rfl

end Sda.DeliveryDetails
