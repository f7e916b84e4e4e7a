/-
Sda/Sdk/DeliveryDetails.lean

The delivery entries of an Eldorado account offer
(apis_sdk/clients/marketplaces/eldorado/delivery_details.py).

A legacy entry is a text, which is read line by line into a structured detail; a structured entry is
kept as it is.  A function that raises returns none.  `shown` is `str` of a value that is neither a
text nor an int.

Main results: `preserved_structured` — every structured entry is kept as it is, in its place;
`toWirePayload_of_details` — a payload that has its details is only relieved of the legacy key.
-/
import Sda.Posting.TrackingCode
import Sda.Sdk.Json

namespace Sda.DeliveryDetails

open Posting.TrackingCode (literalI)
open Templates (Python)

variable (py : Python) (shown : Json → Option (List Char))

/-! ### Tables -/

/-- `ADDITIONAL_INFO_MAX` -/
def additionalInfoMax : Nat := 2000

/-- `_LOGIN_LABELS` -/
def loginLabels : List (List Char) :=
  ["login", "username", "user name", "account login", "account", "id", "psn id", "xbox id",
    "steam id", "steam login", "epic login", "riot id", "riot login", "ubisoft login",
    "rockstar id", "rockstar login"].map String.toList

/-- `_PASSWORD_LABELS` -/
def passwordLabels : List (List Char) :=
  ["password", "pass", "account password", "psn password", "xbox password", "steam password",
    "epic password", "riot password", "ubisoft password", "rockstar password"].map String.toList

/-- `_EMAIL_LABELS` -/
def emailLabels : List (List Char) := ["email", "e-mail", "mail", "email login"].map String.toList

/-- `_EMAIL_PASSWORD_LABELS` -/
def emailPasswordLabels : List (List Char) :=
  ["email password", "e-mail password", "mail password", "email pass"].map String.toList

/-- `_EMAIL_URL_LABELS` -/
def emailUrlLabels : List (List Char) :=
  ["email login link", "provider url", "email provider url", "email link"].map String.toList

inductive Section
  | account | email | mfa | info
  deriving DecidableEq

/-- `_SECTION_HEADERS` -/
def sectionHeaders : List (List Char × Section) :=
  [("account details".toList, .account), ("email details".toList, .email),
    ("2fa details".toList, .mfa), ("additional information".toList, .info)]

/-- `_PROVIDER_URLS` -/
def providerUrls : List (List Char × List Char) :=
  [("gmail.com", "https://mail.google.com"), ("googlemail.com", "https://mail.google.com"),
    ("hotmail.com", "https://outlook.live.com"), ("outlook.com", "https://outlook.live.com"),
    ("live.com", "https://outlook.live.com"), ("msn.com", "https://outlook.live.com"),
    ("yahoo.com", "https://mail.yahoo.com"), ("yandex.com", "https://mail.yandex.com"),
    ("yandex.ru", "https://mail.yandex.com"), ("icloud.com", "https://www.icloud.com/mail"),
    ("me.com", "https://www.icloud.com/mail"), ("proton.me", "https://mail.proton.me"),
    ("protonmail.com", "https://mail.proton.me"), ("rambler.ru", "https://mail.rambler.ru"),
    ("mail.ru", "https://e.mail.ru")].map fun p => (p.1.toList, p.2.toList)

/-! ### A legacy entry -/

/-- `str(value)` -/
def strOf : Json → Option (List Char)
  | .str text => some text
  | .int n => (Templates.intText py n).toOption
  | value => shown value

/-- Where `str.splitlines` breaks a text. -/
def isLineBreak (c : Char) : Bool :=
  ['\n', '\r', '\x0b', '\x0c', '\x1c', '\x1d', '\x1e', '\u0085', '\u2028', '\u2029'].contains c

/-- `_LINE.match` of a stripped line: the label, of at most 40 characters, and the value. -/
def labelLine (line : List Char) : Option (List Char × List Char) :=
  let label := (line.takeWhile (· != ':')).rdropWhile isSpaceChar
  match line.dropWhile (· != ':') with
  | [] => none
  | _ :: value =>
    if 1 ≤ label.length ∧ label.length ≤ 40 then some (label, stripChars value) else none

/-- `^https?://` under `re.I` -/
def scheme : Re := .cat [literalI "http", .opt (literalI "s"), literalI "://"]

/-- `_provider_url` -/
def providerUrl (email explicit : List Char) : Option (List Char) :=
  let explicit := stripChars explicit
  if explicit ≠ [] then
    some (if (scheme.first none explicit).isSome then explicit else "https://".toList ++ explicit)
  else if '@' ∈ email then providerUrls.lookup (py.lower (email.rtakeWhile (· != '@')))
  else providerUrls.lookup []

/-- The local variables of `secret_text_to_delivery_detail`. -/
structure Secret where
  sect : Option Section := none
  login : List Char := []
  password : List Char := []
  email : List Char := []
  emailPassword : List Char := []
  emailUrl : List Char := []
  leftovers : List (List Char) := []
  deriving DecidableEq

/-- A line that no field takes. -/
def Secret.leave (s : Secret) (line : List Char) : Secret :=
  { s with leftovers := s.leftovers ++ [line] }

/-- A labelled line of the section for the email. -/
def emailStep (s : Secret) (stripped label value : List Char) : Secret :=
  if label ∈ "login".toList :: emailLabels ∧ s.email = [] then { s with email := value }
  else if label ∈ "password".toList :: emailPasswordLabels ∧ s.emailPassword = [] then
    { s with emailPassword := value }
  else if label ∈ emailUrlLabels ∧ s.emailUrl = [] then { s with emailUrl := value }
  else s.leave stripped

/-- A labelled line with a value, of the account. -/
def accountStep (s : Secret) (stripped label value : List Char) : Secret :=
  if label ∈ emailPasswordLabels ∧ s.emailPassword = [] then { s with emailPassword := value }
  else if label ∈ emailUrlLabels ∧ s.emailUrl = [] then { s with emailUrl := value }
  else if label ∈ emailLabels ∧ s.email = [] then { s with email := value }
  else if label ∈ loginLabels ∧ s.login = [] then { s with login := value }
  else if label ∈ passwordLabels ∧ s.password = [] then { s with password := value }
  else s.leave stripped

/-- One line of the loop. -/
def secretStep (s : Secret) (line : List Char) : Secret :=
  let stripped := stripChars line
  if stripped = [] then s
  else
    match sectionHeaders.lookup ((py.lower stripped).rdropWhile (· == ':')) with
    | some header => { s with sect := some header }
    | none =>
      match labelLine stripped with
      | none => s.leave stripped
      | some (label, value) =>
        let label := py.lower label
        match s.sect with
        | some .email => emailStep s stripped label value
        | none | some .account =>
          if value = [] then s.leave stripped else accountStep s stripped label value
        | some .mfa | some .info => s.leave stripped

/-- The email of a detail, and the lines for the buyer. -/
def emailDetails (s : Secret) : Json × List (List Char) :=
  let url := if s.email = [] then none else providerUrl py s.email s.emailUrl
  match s.email, s.emailPassword, url with
  | _ :: _, _ :: _, some (c :: url) =>
    (.dict [("emailLogin", .str s.email), ("emailPassword", .str s.emailPassword),
      ("emailProviderUrl", .str (c :: url))], s.leftovers)
  | [], [], _ => (.null, s.leftovers)
  | _, _, _ =>
    let labeled := fun (label : String) value => if value = [] then [] else [label.toList ++ value]
    (.null, labeled "Email: " s.email ++ labeled "Email Password: " s.emailPassword ++
      s.leftovers ++ labeled "Email Login Link: " s.emailUrl)

/-- **`secret_text_to_delivery_detail`**; none is the `EldoradoDeliveryDetailsError`. -/
def secretTextToDeliveryDetail (text : List Char) : Option Json :=
  let raw := stripChars text
  if raw = [] then none
  else
    let s := (raw.splitOnP isLineBreak).foldl (secretStep py) {}
    if s.login = [] ∨ s.password = [] then none
    else
      let (email, leftovers) := emailDetails py s
      let info := (stripChars (joinChars ['\n'] leftovers)).take additionalInfoMax
      some (.dict [
        ("accountDetails", .dict [("accountLogin", .str s.login),
          ("accountPassword", .str s.password)]),
        ("emailDetails", email), ("mfaDetails", .null),
        ("additionalInfo", if info = [] then .null else .str info)])

/-! ### The wire -/

/-- The seller's form sends no empty list of volume discounts. -/
def nullDiscounts (wire : Fields) : Fields :=
  match (wire.get "details").fields? with
  | none => wire
  | some details =>
    match (details.get "pricing").fields? with
    | none => wire
    | some pricing =>
      match pricing.lookup "volumeDiscounts" with
      | some (.list []) =>
        wire.set "details" (.dict (details.set "pricing"
          (.dict (pricing.set "volumeDiscounts" .null))))
      | _ => wire

/-- The texts of a legacy list: the values that are not blank. -/
def legacyTexts : List Json → Option (List (List Char))
  | [] => some []
  | s :: secrets =>
    match strOf py shown (s.orElse (.str [])), legacyTexts secrets with
    | some text, some texts => some (if stripChars text = [] then texts else text :: texts)
    | _, _ => none

/-- What `for s in (secrets or [])` runs over; none is the `TypeError`. -/
def legacySecrets : Json → Option (List Json)
  | .str text => some [.str text]
  | secrets =>
    match secrets.orElse (.list []) with
    | .list items => some items
    | .dict d => some (d.map fun kv => .str kv.1.toList)
    | _ => none

/-- **`to_wire_payload`** -/
def toWirePayload : Json → Option Json
  | .dict payload =>
    let wire := nullDiscounts payload
    match wire.lookup "accountSecretDetails" with
    | none => some (.dict wire)
    | some secrets =>
      let wire := wire.pop "accountSecretDetails"
      if wire.has "accountDeliveryDetails" = true then some (.dict wire)
      else
        match legacySecrets secrets with
        | none => none
        | some secrets =>
          match legacyTexts py shown secrets with
          | none => none
          | some [] => some (.dict wire)
          | some texts =>
            (texts.mapM (secretTextToDeliveryDetail py)).map fun details =>
              .dict (wire.set "accountDeliveryDetails" (.list details))
  | payload => some payload

variable {py shown}

/-- A payload that has its details is only relieved of the legacy key. -/
theorem toWirePayload_of_details {payload : Fields} {secrets : Json}
    (hsecrets : (nullDiscounts payload).lookup "accountSecretDetails" = some secrets)
    (hdetails : ((nullDiscounts payload).pop "accountSecretDetails").has
      "accountDeliveryDetails" = true) :
    toWirePayload py shown (.dict payload) =
      some (.dict ((nullDiscounts payload).pop "accountSecretDetails")) := by
  unfold toWirePayload
  dsimp only
  rw [hsecrets]
  dsimp only
  rw [if_pos hdetails]

variable (py)

/-! ### Entries that are kept -/

/-- An entry of the response. -/
structure CredentialEntry where
  secretDetails : List Char := []
  structuredDetails : Json := .null

/-- The response with the credentials of an offer: the fields that were set, if the model records
them, and its two lists. -/
structure CredentialsResponse where
  modelFieldsSet : Option (List String) := none
  accountsDetails : List CredentialEntry := []
  secretDetails : List CredentialEntry := []

/-- The entries of a response. -/
def CredentialsResponse.entries (r : CredentialsResponse) : List CredentialEntry :=
  if r.accountsDetails = [] then r.secretDetails else r.accountsDetails

/-- A structured detail with a login and a password. -/
def readable (structured : Json) : Bool :=
  (structured.fields?.bind fun d => (d.get "accountDetails").fields?).any fun account =>
    (account.get "accountLogin").truthy && (account.get "accountPassword").truthy

/-- One round of the loop of `preserved_delivery_details`. -/
def preservedEntry (entry : CredentialEntry) : Option Json :=
  match entry.structuredDetails with
  | .null =>
    let text := stripChars entry.secretDetails
    if text = [] then none else secretTextToDeliveryDetail py text
  | structured => if readable structured = true then some structured else none

/-- **`preserved_delivery_details`** -/
def preservedDeliveryDetails : Option CredentialsResponse → Option (List Json)
  | none => none
  | some response =>
    if response.modelFieldsSet.all
        fun set => set.contains "accountsDetails" || set.contains "secretDetails" then
      response.entries.mapM (preservedEntry py)
    else none

variable {py}

/-- A structured entry is kept as it is. -/
theorem preservedEntry_structured {entry : CredentialEntry} {detail : Json}
    (h : preservedEntry py entry = some detail) (hstructured : entry.structuredDetails ≠ .null) :
    detail = entry.structuredDetails := by
  unfold preservedEntry at h
  split at h
  · next hnull => exact absurd hnull hstructured
  · split at h
    · exact (Option.some.inj h).symm
    · cases h

/-- **Every entry of a readable list** gives one detail, in its place. -/
theorem preserved_structured {response : CredentialsResponse} {delivery : List Json}
    (h : preservedDeliveryDetails py (some response) = some delivery) :
    List.Forall₂ (fun entry detail => entry.structuredDetails ≠ .null →
      detail = entry.structuredDetails) response.entries delivery := by
  unfold preservedDeliveryDetails at h
  dsimp only at h
  split at h
  · generalize response.entries = entries at h
    induction entries generalizing delivery with
    | nil =>
      cases h
      exact List.Forall₂.nil
    | cons entry entries ih =>
      rw [List.mapM_cons] at h
      obtain ⟨detail, hdetail, h⟩ := Option.bind_eq_some_iff.mp h
      obtain ⟨details, hdetails, h⟩ := Option.bind_eq_some_iff.mp h
      cases h
      exact List.Forall₂.cons (preservedEntry_structured hdetail) (ih hdetails)
  · cases h

end Sda.DeliveryDetails
