/-
Sda/Sdk/CredentialFingerprint.lean

The identity of a credential: its lower-cased login and its password.

A structured detail is shown as a text again: the login and the password first, each behind its
label, then the email and the lines for the buyer.  Whatever those lines say, reading the text takes
the login and the password from the two lines in front (`reads_front`).

Main results: `stored_clean` — a value that is read has no line break, and no white space around it;
`credentialFingerprint_roundTrip` — the fingerprint survives the way through the structured form.
-/
import Sda.Lib.Lines
import Sda.Sdk.SecretLines
import Sda.Templates.Soundness

namespace Sda.DeliveryDetails

open Templates (Python asciiPython)

-- a statement about the characters of a list is decided on the list, not on every character
local instance decidableForallFront (l : List Char) (p : Char → Prop) [DecidablePred p] :
    Decidable (∀ c ∈ l, p c) :=
  List.decidableBAll p l

variable (py : Python) (shown : Json → Option (List Char))

/-! ### From a structured detail to a text -/

/-- A line of the text, for a value that is there. -/
def shownLine (label : String) (value : Json) : Option (List (List Char)) :=
  if value.truthy = true then (strOf py shown value).map fun text => [label.toList ++ text]
  else some []

/-- The lines of a part of the detail, if it is a dict. -/
def shownLines (part : Json) (labels : List (String × String)) : Option (List (List Char)) :=
  match part.orElse (.dict []) with
  | .dict d => (labels.mapM fun l => shownLine py shown l.1 (Fields.get d l.2)).map List.flatten
  | _ => some []

/-- **`delivery_detail_to_secret_text`** -/
def deliveryDetailToSecretText : Json → Option (List Char)
  | .dict detail => do
    let account ← shownLines py shown (Fields.get detail "accountDetails")
      [("Login: ", "accountLogin"), ("Password: ", "accountPassword")]
    let email ← shownLines py shown (Fields.get detail "emailDetails")
      [("Email: ", "emailLogin"), ("Email Password: ", "emailPassword"),
        ("Email Login Link: ", "emailProviderUrl")]
    let info ← strOf py shown ((Fields.get detail "additionalInfo").orElse (.str []))
    let info := stripChars info
    some (joinChars ['\n'] (account ++ email ++ if info = [] then [] else [info]))
  | _ => some []

/-- **`credential_fingerprint`**; none where the text has no login and password. -/
def credentialFingerprint (text : List Char) : Option (List Char) :=
  match secretTextToDeliveryDetail py text with
  | none => none
  | some detail =>
    match detail.at_ ["accountDetails", "accountLogin"],
        detail.at_ ["accountDetails", "accountPassword"] with
    | .str login, .str password => some (py.lower (stripChars login) ++ '\x1f' :: password)
    | _, _ => none

/-- What is used of `str.lower`: it takes ASCII letters one by one, and does not look beyond a
blank. -/
structure LowersAscii (py : Python) : Prop where
  lower_ascii : ∀ x : List Char, (∀ c ∈ x, c.toNat < 128) → py.lower x = x.map Char.toLower
  lower_blank : ∀ x y : List Char, py.lower (x ++ ' ' :: y) = py.lower x ++ ' ' :: py.lower y

theorem lowersAscii_asciiPython : LowersAscii asciiPython where
  lower_ascii _ _ := rfl
  lower_blank x y := by simp [asciiPython]

/-! ### What is stored -/

/-- A value as it is stored: not empty, on one line, with no white space around it. -/
structure Stored (value : List Char) : Prop where
  ne : value ≠ []
  oneLine : ∀ c ∈ value, isLineBreak c = false
  stripped : stripChars value = value

variable {py shown}

theorem oneLine_of_mem_splitOnP {x line : List Char} (h : line ∈ x.splitOnP isLineBreak) :
    ∀ c ∈ line, isLineBreak c = false := by
  induction x generalizing line with
  | nil =>
    rw [List.splitOnP_nil, List.mem_singleton] at h
    subst h
    nofun
  | cons c x ih =>
    rw [List.splitOnP_cons_eq_if_modifyHead] at h
    cases hc : isLineBreak c with
    | true =>
      rw [hc, if_pos rfl] at h
      rcases List.mem_cons.mp h with rfl | h
      · nofun
      · exact ih h
    | false =>
      rw [hc, if_neg Bool.false_ne_true] at h
      match hsplit : x.splitOnP isLineBreak with
      | [] => exact absurd hsplit (List.splitOnP_ne_nil _ _)
      | first :: more =>
        rw [hsplit, List.modifyHead_cons] at h
        rw [hsplit] at ih
        rcases List.mem_cons.mp h with rfl | h
        · intro d hd
          rcases List.mem_cons.mp hd with rfl | hd
          · exact hc
          · exact ih List.mem_cons_self d hd
        · exact ih (List.mem_cons_of_mem first h)

/-- **What a field ends up with** is a value as it stood on a line. -/
theorem stored_of_foldl {f : SecretField} {x : List Char}
    (hne : ((x.splitOnP isLineBreak).foldl (secretStep py) {}).get f ≠ []) :
    Stored (((x.splitOnP isLineBreak).foldl (secretStep py) {}).get f) := by
  obtain ⟨pre, line, post, value, hlines, hgives, hfirst⟩ :=
    ((get_foldl_ne_nil_iff _).mp hne).first
  have hvalue := get_foldl_of_first post hgives hfirst
  rw [← hlines] at hvalue
  obtain ⟨label, hlabel⟩ := labelLine_of_named hgives.named
  obtain ⟨hstripped, hpart⟩ := labelLine_value hlabel
  have hsub : value.Sublist line := (hpart.trans ((List.rdropWhile_prefix _ _).isInfix.trans
    (List.dropWhile_suffix _).isInfix)).sublist
  have hmem : line ∈ x.splitOnP isLineBreak := by
    rw [hlines]
    exact List.mem_append_right pre List.mem_cons_self
  rw [hvalue]
  exact ⟨hgives.value_ne, fun c hc => oneLine_of_mem_splitOnP hmem c (hsub.subset hc), hstripped⟩

/-! ### The two lines in front -/

theorem splitOnP_line {x y : List Char} (hx : ∀ c ∈ x, isLineBreak c = false) :
    (x ++ '\n' :: y).splitOnP isLineBreak = x :: y.splitOnP isLineBreak := by
  induction x with
  | nil => rfl
  | cons c x ih =>
    rw [List.cons_append, List.splitOnP_cons_eq_if_modifyHead, hx c List.mem_cons_self,
      if_neg Bool.false_ne_true, ih fun d hd => hx d (List.mem_cons_of_mem c hd)]
    rfl

theorem splitOnP_oneLine {x : List Char} (hx : ∀ c ∈ x, isLineBreak c = false) :
    x.splitOnP isLineBreak = [x] :=
  List.splitOnP_eq_singleton fun c hc => by rw [hx c hc]

/-- The label of a line in front, with its field. -/
def frontLabels : List (String × SecretField) := [("Login", .login), ("Password", .password)]

theorem login_mem : ("Login", SecretField.login) ∈ frontLabels := List.mem_cons_self

theorem password_mem : ("Password", SecretField.password) ∈ frontLabels :=
  List.mem_cons_of_mem _ List.mem_cons_self

/-- One case for each label. -/
@[elab_as_elim]
theorem frontLabels_cases {motive : String → SecretField → Prop} {label : String} {f : SecretField}
    (h : (label, f) ∈ frontLabels) (login : motive "Login" .login)
    (password : motive "Password" .password) : motive label f := by
  rcases List.mem_pair.mp h with h | h
  · cases h
    exact login
  · cases h
    exact password

theorem stripped_back {x : List Char} (h : stripChars x = x) : x.rdropWhile isSpaceChar = x := by
  rw [← h]
  exact List.rdropWhile_idempotent isSpaceChar _

theorem rdropWhile_append_self {p : Char → Bool} (x : List Char) {y : List Char}
    (hy : y.rdropWhile p = y) (hne : y ≠ []) : (x ++ y).rdropWhile p = x ++ y := by
  apply List.rdropWhile_eq_self_iff.mpr
  intro h
  rw [List.getLast_append_of_ne_nil _ hne]
  exact List.rdropWhile_eq_self_iff.mp hy hne

section Front

variable {label : String} {f : SecretField} {value : List Char}

theorem stripChars_front (h : (label, f) ∈ frontLabels) (hvalue : Stored value) :
    stripChars (label.toList ++ ':' :: ' ' :: value) = label.toList ++ ':' :: ' ' :: value := by
  have hback : (':' :: ' ' :: value).rdropWhile isSpaceChar = ':' :: ' ' :: value :=
    rdropWhile_append_self [':', ' '] (stripped_back hvalue.stripped) hvalue.ne
  rw [stripChars_append _ rfl, hback]
  exact frontLabels_cases h rfl rfl

/-- The label in small letters begins like no header. -/
theorem headerOf_front (hpy : LowersAscii py) (h : (label, f) ∈ frontLabels)
    (hvalue : Stored value) : headerOf py (label.toList ++ ':' :: ' ' :: value) = none := by
  have hfront : py.lower (label.toList ++ [':']) = (label.toList ++ [':']).map Char.toLower :=
    hpy.lower_ascii _ (frontLabels_cases h (by decide +kernel) (by decide +kernel))
  have hsplit : label.toList ++ ':' :: ' ' :: value = (label.toList ++ [':']) ++ ' ' :: value := by
    simp
  unfold headerOf
  split
  · rfl
  rw [stripChars_front h hvalue, hsplit, hpy.lower_blank, hfront]
  refine frontLabels_cases h ?_ ?_
  · obtain ⟨y, hy⟩ := rdropWhile_cons (p := (· == ':')) (c := 'l') rfl
      ("ogin:".toList ++ ' ' :: py.lower value)
    show sectionHeaders.lookup (('l' :: ("ogin:".toList ++ ' ' :: py.lower value)).rdropWhile
      (· == ':')) = none
    rw [hy]
    rfl
  · obtain ⟨y, hy⟩ := rdropWhile_cons (p := (· == ':')) (c := 'p') rfl
      ("assword:".toList ++ ' ' :: py.lower value)
    show sectionHeaders.lookup (('p' :: ("assword:".toList ++ ' ' :: py.lower value)).rdropWhile
      (· == ':')) = none
    rw [hy]
    rfl

theorem named_front (hpy : LowersAscii py) (h : (label, f) ∈ frontLabels) (hvalue : Stored value) :
    named py none (label.toList ++ ':' :: ' ' :: value) = some (f, value) := by
  have hlabel : labelLine (label.toList ++ ':' :: ' ' :: value) =
      some (label.toList, stripChars (' ' :: value)) := frontLabels_cases h rfl rfl
  have hblank : stripChars (' ' :: value) = value := hvalue.stripped
  have hlower : py.lower label.toList = label.toList.map Char.toLower :=
    hpy.lower_ascii _ (frontLabels_cases h (by decide +kernel) (by decide +kernel))
  have hfield : accountField (label.toList.map Char.toLower) = some f :=
    frontLabels_cases h (by decide +kernel) (by decide +kernel)
  unfold named
  rw [stripChars_front h hvalue, hlabel]
  dsimp only
  rw [hblank, if_neg hvalue.ne, hlower, hfield]
  rfl

/-- **A line in front** sets its field. -/
theorem secretStep_front (hpy : LowersAscii py) (h : (label, f) ∈ frontLabels)
    (hvalue : Stored value) {s : Secret} (hsect : s.sect = none) (hempty : s.get f = []) :
    secretStep py s (label.toList ++ ':' :: ' ' :: value) = s.set value f := by
  have hcontent : IsContent py (label.toList ++ ':' :: ' ' :: value) := by
    refine ⟨?_, headerOf_front hpy h hvalue⟩
    rw [stripChars_front h hvalue]
    simp
  exact secretStep_of_named hcontent (hsect ▸ named_front hpy h hvalue) hempty

end Front

/-- What is behind the two lines in front. -/
def IsRest (rest : List Char) : Prop := rest = [] ∨ ∃ y, rest = '\n' :: y

/-- Stripping takes nothing off the two lines in front. -/
theorem stripChars_rest {x rest : List Char} (hx : stripChars x = x) (hne : x ≠ [])
    (hrest : IsRest rest) : ∃ kept, stripChars (x ++ rest) = x ++ kept ∧ IsRest kept := by
  have hfront : x.dropWhile isSpaceChar = x := by
    rw [← hx]
    exact dropWhile_rdropWhile isSpaceChar x
  have hback : x.rdropWhile isSpaceChar = x := stripped_back hx
  have hdrop : (x ++ rest).dropWhile isSpaceChar = x ++ rest := by
    rw [List.dropWhile_append, hfront, if_neg (by simpa [List.isEmpty_iff] using hne)]
  unfold stripChars
  rw [hdrop]
  induction rest using List.reverseRecOn with
  | nil => exact ⟨[], by simpa using hback, Or.inl rfl⟩
  | append_singleton rest c ih =>
    by_cases hc : isSpaceChar c = true
    · have hcut : (x ++ (rest ++ [c])).rdropWhile isSpaceChar =
          (x ++ rest).rdropWhile isSpaceChar := by
        rw [← List.append_assoc, List.rdropWhile_concat_pos _ _ _ hc]
      rw [hcut]
      refine ih ?_ ?_
      · cases rest with
        | nil => exact Or.inl rfl
        | cons d rest =>
          obtain ⟨y, hy⟩ := hrest.resolve_left (List.cons_ne_nil _ _)
          exact Or.inr ⟨rest, by rw [(List.cons.inj hy).1]⟩
      · rw [List.dropWhile_append, hfront, if_neg (by simpa [List.isEmpty_iff] using hne)]
    · refine ⟨rest ++ [c], ?_, hrest⟩
      rw [← List.append_assoc, List.rdropWhile_concat_neg _ _ _ hc]

/-- The two lines in front. -/
def front (login password : List Char) : List Char :=
  "Login".toList ++ ':' :: ' ' :: login ++ '\n' :: ("Password".toList ++ ':' :: ' ' :: password)

/-- **Behind the two lines in front anything may stand**: they give the login and the password. -/
theorem reads_front (hpy : LowersAscii py) {login password rest : List Char} (hlogin : Stored login)
    (hpassword : Stored password) (hrest : IsRest rest) :
    (secretOf py (front login password ++ rest)).login = login ∧
      (secretOf py (front login password ++ rest)).password = password := by
  have hloginLine : ∀ c ∈ "Login".toList ++ ':' :: ' ' :: login, isLineBreak c = false := by
    have hlabel : ∀ c ∈ "Login: ".toList, isLineBreak c = false := by decide +kernel
    intro c hc
    rcases List.mem_append.mp (show c ∈ "Login: ".toList ++ login from hc) with hc | hc
    · exact hlabel c hc
    · exact hlogin.oneLine c hc
  have hpasswordLine : ∀ c ∈ "Password".toList ++ ':' :: ' ' :: password,
      isLineBreak c = false := by
    have hlabel : ∀ c ∈ "Password: ".toList, isLineBreak c = false := by decide +kernel
    intro c hc
    rcases List.mem_append.mp (show c ∈ "Password: ".toList ++ password from hc) with hc | hc
    · exact hlabel c hc
    · exact hpassword.oneLine c hc
  have hfront : stripChars (front login password) = front login password := by
    have hback := rdropWhile_append_self ("Login".toList ++ ':' :: ' ' :: login ++ ['\n'])
      (stripped_back (stripChars_front password_mem hpassword)) (by simp)
    unfold stripChars
    rw [show (front login password).dropWhile isSpaceChar = front login password from rfl]
    simpa [front] using hback
  obtain ⟨kept, hkept, hrest⟩ := stripChars_rest hfront (by simp [front]) hrest
  obtain ⟨more, hlines⟩ : ∃ more, (front login password ++ kept).splitOnP isLineBreak =
      ("Login".toList ++ ':' :: ' ' :: login) :: ("Password".toList ++ ':' :: ' ' :: password) ::
        more := by
    unfold front
    rw [List.append_assoc, List.cons_append, splitOnP_line hloginLine]
    rcases hrest with rfl | ⟨y, rfl⟩
    · exact ⟨[], by rw [List.append_nil, splitOnP_oneLine hpasswordLine]⟩
    · exact ⟨y.splitOnP isLineBreak, by rw [splitOnP_line hpasswordLine]⟩
  have hread : secretOf py (front login password ++ rest) =
      more.foldl (secretStep py) { login := login, password := password } := by
    unfold secretOf
    rw [hkept, hlines, List.foldl_cons, List.foldl_cons,
      secretStep_front hpy login_mem hlogin rfl rfl,
      secretStep_front hpy password_mem hpassword rfl rfl]
    rfl
  rw [hread]
  exact ⟨get_foldl (s := { login := login, password := password }) (f := .login) hlogin.ne more,
    get_foldl (s := { login := login, password := password }) (f := .password) hpassword.ne more⟩

/-! ### The round trip -/

theorem credentialFingerprint_eq (text : List Char) : credentialFingerprint py text =
    if (secretOf py text).login ≠ [] ∧ (secretOf py text).password ≠ [] then
      some (py.lower (stripChars (secretOf py text).login) ++ '\x1f' :: (secretOf py text).password)
    else none := by
  unfold credentialFingerprint
  split
  · next hnone =>
    rw [if_neg]
    rintro ⟨hlogin, hpassword⟩
    rw [secretText_eq_some_iff.mpr ⟨hlogin, hpassword, rfl⟩] at hnone
    cases hnone
  · next detail hsome =>
    obtain ⟨hlogin, hpassword, rfl⟩ := secretText_eq_some_iff.mp hsome
    rw [if_pos ⟨hlogin, hpassword⟩]
    rfl

theorem joinChars_cons (x : List Char) (xs : List (List Char)) :
    ∃ rest, joinChars ['\n'] (x :: xs) = x ++ rest ∧ IsRest rest := by
  cases xs with
  | nil => exact ⟨[], by simp [joinChars], Or.inl rfl⟩
  | cons y ys => exact ⟨'\n' :: joinChars ['\n'] (y :: ys), by simp [joinChars], Or.inr ⟨_, rfl⟩⟩

theorem shownLine_str (label : String) {value : List Char} (h : value ≠ []) :
    shownLine py shown label (.str value) = some [label.toList ++ value] :=
  if_pos (by simpa [Json.truthy, List.isEmpty_iff] using h)

/-- The lines of a part whose values are texts. -/
theorem shownLines_dict {d : Fields} {labels : List (String × String)} (text : String → List Char)
    (h : ∀ l ∈ labels, d.get l.2 = .str (text l.2) ∧ text l.2 ≠ []) :
    shownLines py shown (.dict d) labels = some (labels.map fun l => l.1.toList ++ text l.2) := by
  have hdict : (Json.dict d).orElse (.dict []) = .dict d := by
    cases d <;> rfl
  have hlines : labels.mapM (fun l => shownLine py shown l.1 (d.get l.2)) =
      some (labels.map fun l => [l.1.toList ++ text l.2]) := by
    induction labels with
    | nil => rfl
    | cons l labels ih =>
      obtain ⟨hget, hne⟩ := h l List.mem_cons_self
      rw [List.mapM_cons, hget, shownLine_str _ hne,
        ih fun l' hl' => h l' (List.mem_cons_of_mem l hl')]
      rfl
  unfold shownLines
  rw [hdict]
  dsimp only
  have hflat : (labels.map fun l => [l.1.toList ++ text l.2]).flatten =
      labels.map fun l => l.1.toList ++ text l.2 := by
    rw [← List.flatMap_def, ← List.map_eq_flatMap]
  rw [hlines]
  exact congrArg some hflat

/-- The email of a detail has a text. -/
theorem shownLines_email (py : Python) (shown : Json → Option (List Char)) (s : Secret) : ∃ email, shownLines py shown (emailDetails py s).1
    [("Email: ", "emailLogin"), ("Email Password: ", "emailPassword"),
      ("Email Login Link: ", "emailProviderUrl")] = some email := by
  have hnull : ∃ email, shownLines py shown .null
      [("Email: ", "emailLogin"), ("Email Password: ", "emailPassword"),
        ("Email Login Link: ", "emailProviderUrl")] = some email := ⟨_, rfl⟩
  unfold emailDetails
  dsimp only
  split
  · next c₁ email c₂ password c url hemail hpassword hurl =>
    refine ⟨_, shownLines_dict (fun key => if key = "emailLogin" then s.email
      else if key = "emailPassword" then s.emailPassword else c :: url) ?_⟩
    intro l hl
    simp only [List.mem_cons, List.not_mem_nil, or_false] at hl
    rcases hl with rfl | rfl | rfl
    · exact ⟨rfl, by simp [hemail]⟩
    · exact ⟨rfl, by simp [hpassword]⟩
    · exact ⟨rfl, by simp⟩
  · exact hnull
  · exact hnull

/-- The text of a detail: the login and the password stand in front. -/
theorem toSecretText_front (py : Python) (shown : Json → Option (List Char)) {s : Secret} (hlogin : s.login ≠ []) (hpassword : s.password ≠ []) :
    ∃ rest, deliveryDetailToSecretText py shown (detailOf py s) =
      some (front s.login s.password ++ rest) ∧ IsRest rest := by
  have haccount : shownLines py shown
      (.dict [("accountLogin", .str s.login), ("accountPassword", .str s.password)])
      [("Login: ", "accountLogin"), ("Password: ", "accountPassword")] =
      some ["Login: ".toList ++ s.login, "Password: ".toList ++ s.password] := by
    refine shownLines_dict (fun key => if key = "accountLogin" then s.login else s.password) ?_
    intro l hl
    rcases List.mem_pair.mp hl with rfl | rfl
    · exact ⟨rfl, hlogin⟩
    · exact ⟨rfl, hpassword⟩
  obtain ⟨email, hemail⟩ := shownLines_email py shown s
  obtain ⟨info, hinfo⟩ : ∃ info, strOf py shown
      (Json.orElse (if (infoOf py s).take additionalInfoMax = [] then .null
        else .str ((infoOf py s).take additionalInfoMax)) (.str [])) = some info := by
    split
    · exact ⟨_, rfl⟩
    · next hne =>
      refine ⟨(infoOf py s).take additionalInfoMax, ?_⟩
      rw [Json.orElse, if_pos (by simpa [Json.truthy, List.isEmpty_iff] using hne)]
      rfl
  obtain ⟨rest, hrest, hnewline⟩ := joinChars_cons ("Password: ".toList ++ s.password)
    (email ++ if stripChars info = [] then [] else [stripChars info])
  refine ⟨rest, ?_, hnewline⟩
  show (do
    let account ← shownLines py shown
      (.dict [("accountLogin", .str s.login), ("accountPassword", .str s.password)])
      [("Login: ", "accountLogin"), ("Password: ", "accountPassword")]
    let email ← shownLines py shown (emailDetails py s).1
      [("Email: ", "emailLogin"), ("Email Password: ", "emailPassword"),
        ("Email Login Link: ", "emailProviderUrl")]
    let info ← strOf py shown
      (Json.orElse (if (infoOf py s).take additionalInfoMax = [] then .null
        else .str ((infoOf py s).take additionalInfoMax)) (.str []))
    let info := stripChars info
    some (joinChars ['\n'] (account ++ email ++ if info = [] then [] else [info]))) = _
  rw [haccount, hemail, hinfo]
  show some (unlines (("Login: ".toList ++ s.login) :: ("Password: ".toList ++ s.password) ::
    (email ++ if stripChars info = [] then [] else [stripChars info]))) = _
  rw [unlines_cons (List.cons_ne_nil _ _)]
  refine congrArg some ((congrArg (fun x => "Login: ".toList ++ s.login ++ '\n' :: x) hrest).trans ?_)
  simp [front]

/-- **The fingerprint of a credential is stable**: whatever its text, it is recognised after it went
through the structured form. -/
theorem credentialFingerprint_roundTrip (py : Python) (hpy : LowersAscii py)
    (shown : Json → Option (List Char)) (text : List Char) (detail : Json)
    (h : secretTextToDeliveryDetail py text = some detail) :
    ∃ back, deliveryDetailToSecretText py shown detail = some back ∧
      credentialFingerprint py back = credentialFingerprint py text ∧
      (credentialFingerprint py text).isSome = true := by
  obtain ⟨hlogin, hpassword, rfl⟩ := secretText_eq_some_iff.mp h
  obtain ⟨rest, hback, hrest⟩ := toSecretText_front py shown hlogin hpassword
  have hstoredLogin : Stored (secretOf py text).login := stored_of_foldl (f := .login) hlogin
  have hstoredPassword : Stored (secretOf py text).password :=
    stored_of_foldl (f := .password) hpassword
  obtain ⟨hloginBack, hpasswordBack⟩ := reads_front hpy hstoredLogin hstoredPassword hrest
  refine ⟨_, hback, ?_, ?_⟩
  · rw [credentialFingerprint_eq, credentialFingerprint_eq, hloginBack, hpasswordBack]
  · rw [credentialFingerprint_eq, if_pos ⟨hlogin, hpassword⟩]
    rfl

/-- Text with other labels, in another order, and with a second login. -/
def kevin : List Char := "PASS : a:b\n Login: Kevin \nLogin: other".toList

theorem credentialFingerprint_roundTrip_at_kevin : ∃ back,
    deliveryDetailToSecretText asciiPython (fun _ => none)
        (detailOf asciiPython (secretOf asciiPython kevin)) = some back ∧
      credentialFingerprint asciiPython back = credentialFingerprint asciiPython kevin ∧
      (credentialFingerprint asciiPython kevin).isSome = true :=
  credentialFingerprint_roundTrip asciiPython lowersAscii_asciiPython (fun _ => none) kevin _
    (secretText_eq_some_iff.mpr ⟨by decide +kernel, by decide +kernel, rfl⟩)

end Sda.DeliveryDetails
