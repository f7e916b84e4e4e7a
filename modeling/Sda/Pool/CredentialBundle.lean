/-
Sda/Pool/CredentialBundle.lean

`CredentialBundle` (payload_pipeline/core/contracts.py) and the two texts it is delivered as:
labelled lines, and the sections of an Eldorado account secret.

A text is the list of its characters.  `str.lower` is a parameter; it is only used to look for words
in the seller's note.
-/
import Sda.Pool.Models
import Sda.Lib.Lines

namespace Sda

/-- **`CredentialBundle`** -/
structure CredentialBundle where
  login : List Char := []
  password : List Char := []
  emailLogin : List Char := []
  emailPassword : List Char := []
  emailLoginLink : List Char := []
  securityEmail : List Char := []
  securityEmailPassword : List Char := []
  additionalInfo : List Char := []
  deriving DecidableEq

/-- `f"{label}: {value}"` -/
def labeledLine (label : String) (value : List Char) : List Char :=
  label.toList ++ ':' :: ' ' :: value

/-- The lines of the values that are there. -/
def labeledLines (values : List (String × List Char)) : List (List Char) :=
  (values.filter fun v => v.2 ≠ []).map fun v => labeledLine v.1 v.2

namespace CredentialBundle

/-- `value.split(":", 1)[0]`, of a value of the Outlook format. -/
def outlookPart (value : List Char) : List Char :=
  if 200 ≤ value.length ∧ ':' ∈ value then value.takeWhile (· != ':') else value

/-- **`__post_init__`** -/
def postInit (b : CredentialBundle) : CredentialBundle :=
  let b := { b with password := outlookPart b.password }
  if 200 ≤ b.emailPassword.length ∧ ':' ∈ b.emailPassword then
    { b with emailPassword := outlookPart b.emailPassword }
  else if b.emailPassword.length < 200 then
    -- two colons: the security address follows
    match b.emailPassword.splitOn ':' with
    | [password, email, emailPassword] =>
      { b with
        emailPassword := password
        securityEmail := email
        securityEmailPassword := emailPassword }
    | _ => b
  else b

variable (b : CredentialBundle)

/-- The lines of `to_multiline` behind the login and the password. -/
def moreValues : List (String × List Char) :=
  [("Email", b.emailLogin), ("Email Password", b.emailPassword),
    ("Security Email", b.securityEmail), ("Security Email Password", b.securityEmailPassword),
    ("Email Login Link", b.emailLoginLink)]

/-- **`to_multiline`** -/
def toMultiline : List Char :=
  unlines (labeledLines ([("Login", b.login), ("Password", b.password)] ++ b.moreValues))

/-- The values of a bundle, without the note. -/
def values : List (List Char) :=
  [b.login, b.password, b.emailLogin, b.emailPassword, b.emailLoginLink, b.securityEmail,
    b.securityEmailPassword]

/-- A section with a header, if it has lines. -/
def sectionOf (header : String) (values : List (String × List Char)) : List (List Char) :=
  if labeledLines values = [] then [] else [unlines (header.toList :: labeledLines values)]

/-- The sections of `to_eldorado_account_secret` behind the account. -/
def moreSections : List (List Char) :=
  sectionOf "Email details"
      [("Provider URL", b.emailLoginLink), ("Login", b.emailLogin), ("Password", b.emailPassword)] ++
    sectionOf "2FA details" [("Login", b.securityEmail), ("Password", b.securityEmailPassword)]

/-- The sections of `to_eldorado_account_secret` without the note. -/
def secretSections : List (List Char) :=
  sectionOf "Account details" [("Login", b.login), ("Password", b.password)] ++ b.moreSections

/-- `sensitive_markers` -/
def sensitiveMarkers : List (List Char) :=
  ["password", "pass:", "login:", "token", "secret", "@"].map String.toList

/-- **`to_eldorado_account_secret`** -/
def toEldoradoAccountSecret (lower : List Char → List Char) : Except PyError (List Char) :=
  let note := stripChars b.additionalInfo
  if note = [] then .ok (joinChars "\n\n".toList b.secretSections)
  else if sensitiveMarkers.any (containsChars · (lower note)) = true then
    .error (.valueError
      "Eldorado additional_info must not contain credentials or personal data.")
  else
    .ok (joinChars "\n\n".toList
      (b.secretSections ++ [unlines ["Additional information".toList, note]]))

variable {b}

/-- Every section begins with its header. -/
theorem head_of_mem_section {p : Char → Bool} {header : String}
    {values : List (String × List Char)} {s : List Char} (hs : s ∈ sectionOf header values)
    (hheader : header.toList.head?.any p = true) : s.head?.any p = true := by
  unfold sectionOf at hs
  split at hs
  · cases hs
  · next hne =>
    obtain rfl := List.mem_singleton.mp hs
    have hheader_ne : header.toList ≠ [] := by
      intro hnil
      rw [hnil] at hheader
      cases hheader
    rw [unlines_cons hne, List.head?_append_of_ne_nil _ hheader_ne]
    exact hheader

theorem head_of_mem_secretSections {s : List Char} (hs : s ∈ b.secretSections) :
    s.head?.any (fun c => !isSpaceChar c) = true := by
  rcases List.mem_append.mp hs with hs | hs
  · exact head_of_mem_section hs rfl
  · rcases List.mem_append.mp hs with hs | hs
    · exact head_of_mem_section hs rfl
    · exact head_of_mem_section hs rfl

end CredentialBundle

end Sda
