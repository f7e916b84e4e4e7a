/-
Sda/Pool/Formatter.lean

How the credentials of a product are written for a marketplace (formatter.py, presets.py and
`_apply_pa_auto_delivery_credentials` of replenisher.py).

A credential spec names the fields of a product and has one template for each marketplace: a text,
or for PlayerAuctions a dictionary of texts.  `renderString` puts the values in the place of the
placeholders, then takes every doubled brace for an escaped one, and then drops the lines that look
like a label without a value.  The last two steps read the text with the values in it.

The formatter of the products without a spec is a parameter (`legacy`).
-/
import Sda.Pool.CredentialBundle
import Sda.Posting.TrackingCode

namespace Sda.Formatter

open Posting.TrackingCode (literalI)

/-! ### Specs and products -/

/-- The roles of a credential field. -/
inductive Role
  | login
  | password
  | email
  | emailPassword
  | emailLoginLink
  | securityEmail
  | securityEmailPassword
  | securityEmailLoginLink
  | extra
  deriving DecidableEq

/-- `CredentialFieldSchema` -/
structure Field where
  key : List Char
  label : List Char
  role : Role
  deriving DecidableEq

inductive Marketplace
  | eldorado
  | gameboost
  | playerauctions
  deriving DecidableEq

/-- A value of a template dictionary: a text, or something else that is kept as it is, with what
`str` makes of it and whether it counts as true. -/
inductive Entry
  | text (s : List Char)
  | other (shown : List Char) (truthy : Bool)
  deriving DecidableEq

/-- `str(v)` -/
def Entry.shown : Entry → List Char
  | .text s => s
  | .other shown _ => shown

/-- `str(v or "")` -/
def Entry.shownOr : Entry → List Char
  | .text s => s
  | .other shown truthy => if truthy then shown else []

/-- `bool(v)` -/
def Entry.truthy : Entry → Bool
  | .text s => !s.isEmpty
  | .other _ truthy => truthy

/-- A text is rewritten, anything else is left alone. -/
def Entry.map (f : List Char → List Char) : Entry → Entry
  | .text s => .text (f s)
  | .other shown truthy => .other shown truthy

/-- A template, and what is rendered from it. -/
inductive Content
  | text (t : List Char)
  | dict (entries : List (List Char × Entry))
  deriving DecidableEq

/-- `entries.get(key)` -/
def lookup (entries : List (List Char × Entry)) (key : List Char) : Option Entry :=
  (entries.find? (·.1 == key)).map (·.2)

/-- `CredentialSpec` -/
structure CredentialSpec where
  fields : List Field
  template : Marketplace → Option Content

/-- The columns of an `OwnedProduct`, each as `str(value or "")`, and what is read of its
`raw_data`: `str(raw.get(key, ""))`, the same for the dictionary `credential_values` if it is one,
and the backup codes, empty where there are none. -/
structure OwnedProduct where
  login : List Char := []
  password : List Char := []
  email : List Char := []
  emailPassword : List Char := []
  emailLoginLink : List Char := []
  securityEmail : List Char := []
  securityEmailPassword : List Char := []
  securityEmailLoginLink : List Char := []
  raw : List Char → List Char := fun _ => []
  credentialValues : Option (List Char → List Char) := none
  backupCodes : List Char := []

/-- `ROLE_TO_OWNED_PRODUCT_FIELD` -/
def OwnedProduct.column (product : OwnedProduct) : Role → Option (List Char)
  | .login => some product.login
  | .password => some product.password
  | .email => some product.email
  | .emailPassword => some product.emailPassword
  | .emailLoginLink => some product.emailLoginLink
  | .securityEmail => some product.securityEmail
  | .securityEmailPassword => some product.securityEmailPassword
  | .securityEmailLoginLink => some product.securityEmailLoginLink
  | .extra => none

/-- `build_reverse_role_map`: a later field takes the place of an earlier one. -/
def buildReverseRoleMap (fields : List Field) (key : List Char) : Option Role :=
  (fields.reverse.find? (·.key == key)).map (·.role)

/-- `build_field_role_map` -/
def buildFieldRoleMap (fields : List Field) (role : Role) : Option (List Char) :=
  if role = .extra then none else (fields.reverse.find? (·.role == role)).map (·.key)

/-- `_SYSTEM_TEMPLATE_KEYS` -/
def backupCodesKey : List Char := "email_backup_codes".toList

/-- The text of an extra field. -/
def extraValue (product : OwnedProduct) (key : List Char) : List Char :=
  let val := stripChars (product.raw key)
  match product.credentialValues with
  | some values => if val = [] then stripChars (values key) else val
  | none => val

/-- **`build_credential_render_context`** -/
def buildCredentialRenderContext (product : OwnedProduct) (spec : CredentialSpec)
    (key : List Char) : Option (List Char) :=
  if key = backupCodesKey ∧ product.backupCodes ≠ [] then some product.backupCodes
  else
    (buildReverseRoleMap spec.fields key).map fun role =>
      (product.column role).getD (extraValue product key)

/-! ### Rendering -/

/-- `[a-zA-Z_]` -/
def keyStart (c : Char) : Bool := c.isAlpha || c == '_'

/-- `[a-zA-Z0-9_]` -/
def keyChar (c : Char) : Bool := c.isAlphanum || c == '_'

/-- `_PLACEHOLDER_RE` -/
def placeholder : Re :=
  .seq (.notBehind (· == '{'))
    (.seq (.chars (· == '{'))
      (.seq (.chars keyStart)
        (.seq (.star (.chars keyChar)) (.seq (.chars (· == '}')) (.notAhead (· == '}'))))))

/-- `context.get(match.group(1), "")` -/
def replacer (context : List Char → Option (List Char)) (m : List Char) : List Char :=
  (context m.tail.dropLast).getD []

/-- `s.replace(b + b, b)` for a character `b`. -/
def replaceDouble (b : Char) : List Char → List Char
  | c :: d :: s =>
    if c = b ∧ d = b then b :: replaceDouble b s else c :: replaceDouble b (d :: s)
  | s => s

/-- `result.replace("{{", "{").replace("}}", "}")` -/
def unescape (s : List Char) : List Char := replaceDouble '}' (replaceDouble '{' s)

/-- **`_is_empty_value_line`**: a label, a colon, and then nothing but white space. -/
def isEmptyValueLine (line : List Char) : Bool :=
  line.takeWhile (· != ':') != [] && (line.dropWhile (· != ':')).head? == some ':' &&
    (line.dropWhile (· != ':')).tail.all isSpaceChar

/-- **`_render_string`** -/
def renderString (context : List Char → Option (List Char)) (template : List Char) : List Char :=
  let result := placeholder.sub (replacer context) none 0 template
  unlines ((lines (unescape result)).filter fun line => !isEmptyValueLine line)

/-- The texts of a template, each rewritten. -/
def Content.map (f : List Char → List Char) : Content → Content
  | .text t => .text (f t)
  | .dict entries => .dict (entries.map fun e => (e.1, e.2.map f))

/-- **`render_template`** -/
def renderTemplate (context : List Char → Option (List Char)) : Content → Content :=
  Content.map (renderString context)

/-- A template counts as true. -/
def Content.truthy : Content → Bool
  | .text t => !t.isEmpty
  | .dict entries => !entries.isEmpty

/-- `spec.format_templates.get(marketplace)`, where it is not empty. -/
def CredentialSpec.used (spec : CredentialSpec) (marketplace : Marketplace) : Option Content :=
  (spec.template marketplace).filter Content.truthy

/-- The plain text of a spec without a template for the marketplace. -/
def plainText (fields : List Field) (context : List Char → Option (List Char)) : List Char :=
  unlines ((fields.filter fun f => !((context f.key).getD []).isEmpty).map fun f =>
    f.label ++ ": ".toList ++ (context f.key).getD [])

/-- `"\nBackup Codes:\n..."`, unless the template has its own place for them. -/
def backupTail (product : OwnedProduct) (marketplace : Marketplace) (template : Option Content) :
    List Char :=
  let templateStr := match template with | some (.text t) => t | _ => []
  if marketplace = .eldorado ∧ product.backupCodes ≠ [] ∧
      containsChars "\x7bemail_backup_codes\x7d".toList templateStr = false then
    "\nBackup Codes:\n".toList ++ product.backupCodes
  else []

/-- `format_credential_by_spec` with some rendering of a text. -/
def formatWith (render : List Char → List Char) (product : OwnedProduct) (spec : CredentialSpec)
    (marketplace : Marketplace) : Content :=
  let template := spec.used marketplace
  let result := match template with
    | some t => t.map render
    | none => .text (plainText spec.fields (buildCredentialRenderContext product spec))
  match result with
  | .text s => .text (s ++ backupTail product marketplace template)
  | .dict entries => .dict entries

/-- **`format_credential_by_spec`** -/
def formatCredentialBySpec (product : OwnedProduct) (spec : CredentialSpec)
    (marketplace : Marketplace) : Content :=
  formatWith (renderString (buildCredentialRenderContext product spec)) product spec marketplace

/-! ### presets.py -/

/-- The delivery text in a dictionary. -/
def instructionKey : List Char := "instruction".toList

/-- The lines `Label: {key}` of a preset. -/
def labelLines (ls : List (String × String)) : List Char :=
  unlines (ls.map fun l => l.1.toList ++ ": \x7b".toList ++ l.2.toList ++ ['}'])

/-- A preset: its fields, and its text for all marketplaces, with the keys of the login and of the
password in the dictionary for PlayerAuctions. -/
def presetSpec (fields : List (String × String × Role)) (login password : String)
    (text : List Char) : CredentialSpec where
  fields := fields.map fun f => ⟨f.1.toList, f.2.1.toList, f.2.2⟩
  template
    | .eldorado | .gameboost => some (.text text)
    | .playerauctions => some (.dict [
        ("loginName".toList, .text ('{' :: login.toList ++ ['}'])),
        ("password".toList, .text ('{' :: password.toList ++ ['}'])),
        (instructionKey, .text text),
        ("ownerEmail".toList, .text "\x7bemail\x7d".toList)])

/-- `_generic_fields` and `_generic_format_templates` -/
def genericSpec : CredentialSpec :=
  presetSpec [("login", "Login", .login), ("password", "Password", .password),
    ("email", "Email", .email), ("email_password", "Email Password", .emailPassword)]
    "login" "password"
    (labelLines [("Login", "login"), ("Password", "password"), ("Email", "email"),
      ("Email Password", "email_password")])

/-- `_gta_ps_fields` and `_gta_ps_format_templates` -/
def gtaPsSpec : CredentialSpec :=
  presetSpec [("psn_id", "PSN ID", .login), ("psn_pass", "PSN Password", .password),
    ("email", "Email", .email), ("email_password", "Email Password", .emailPassword),
    ("security_email", "Security Email", .securityEmail),
    ("security_email_password", "Security Email Password", .securityEmailPassword),
    ("dob", "Date of Birth", .extra)]
    "psn_id" "psn_pass"
    (labelLines [("PSN ID", "psn_id"), ("PSN Pass", "psn_pass"), ("Email", "email"),
      ("Email Pass", "email_password"), ("Security Email", "security_email"),
      ("Security Email Pass", "security_email_password"), ("DoB", "dob")])

/-- `_gta_xbox_fields` and `_gta_xbox_format_templates` -/
def gtaXboxSpec : CredentialSpec :=
  presetSpec [("xbox_id", "Xbox ID", .login), ("xbox_pass", "Xbox Password", .password),
    ("email", "Email", .email), ("email_password", "Email Password", .emailPassword)]
    "xbox_id" "xbox_pass"
    (labelLines [("Xbox ID", "xbox_id"), ("Xbox Pass", "xbox_pass"), ("Email", "email"),
      ("Email Pass", "email_password")])

/-- `_gta_pc_fields` and `_gta_pc_format_templates` -/
def gtaPcSpec : CredentialSpec :=
  presetSpec [("steam_id", "Steam ID", .login), ("steam_pass", "Steam Password", .password),
    ("rock_id", "Rockstar ID", .extra), ("rock_pass", "Rockstar Password", .extra),
    ("email", "Email", .email), ("email_password", "Email Password", .emailPassword)]
    "steam_id" "steam_pass"
    (labelLines [("Steam ID", "steam_id"), ("Steam Pass", "steam_pass"),
      ("Rockstar ID", "rock_id"), ("Rockstar Pass", "rock_pass"), ("Email", "email"),
      ("Email Pass", "email_password")])

/-- `CREDENTIAL_PRESETS` -/
def credentialPresets : List (String × CredentialSpec) :=
  [("_default", genericSpec), ("fortnite", genericSpec), ("valorant", genericSpec),
    ("cs2", genericSpec), ("grand-theft-auto-5:ps4", gtaPsSpec),
    ("grand-theft-auto-5:ps5", gtaPsSpec), ("grand-theft-auto-5:xbox-one", gtaXboxSpec),
    ("grand-theft-auto-5:xbox-series", gtaXboxSpec), ("grand-theft-auto-5:pc-legacy", gtaPcSpec),
    ("grand-theft-auto-5:pc-enhanced", gtaPcSpec), ("forza-horizon-5", genericSpec),
    ("forza-motorsport", genericSpec), ("rust", genericSpec), ("new-world", genericSpec),
    ("steam-generic", genericSpec), ("xbox-generic", genericSpec), ("psn-generic", genericSpec)]

/-! ### For a marketplace -/

/-- **`build_credential_bundle`** -/
def buildCredentialBundle (product : OwnedProduct) : CredentialBundle :=
  CredentialBundle.postInit
    { login := product.login
      password := product.password
      emailLogin := product.email
      emailPassword := product.emailPassword
      emailLoginLink := product.emailLoginLink
      securityEmail := product.securityEmail
      securityEmailPassword := product.securityEmailPassword }

/-- `to_eldorado_account_secret` of the bundle of a product, which has no note. -/
def toEldoradoAccountSecret (product : OwnedProduct) : List Char :=
  joinChars "\n\n".toList (buildCredentialBundle product).secretSections

/-- A bundle of a product has no note, so its secret is written. -/
theorem toEldoradoAccountSecret_eq (lower : List Char → List Char) (product : OwnedProduct) :
    (buildCredentialBundle product).toEldoradoAccountSecret lower =
      .ok (toEldoradoAccountSecret product) := by
  have hnote : (buildCredentialBundle product).additionalInfo = [] := by
    unfold buildCredentialBundle CredentialBundle.postInit
    dsimp only
    split
    · rfl
    · split
      · split <;> rfl
      · rfl
  unfold CredentialBundle.toEldoradoAccountSecret
  rw [hnote]
  exact if_pos rfl

/-- Some value of the managed bundle is not in the text. -/
def lacksMarker (product : OwnedProduct) (rendered : List Char) : Bool :=
  [("Login: ", product.login), ("Password: ", product.password), ("Email: ", product.email),
    ("Email Password: ", product.emailPassword)].any fun m =>
      !m.2.isEmpty && !containsChars (m.1.toList ++ m.2) rendered

/-- The canonical bundle is added to the text. -/
def addsBundle (product : OwnedProduct) (rendered : List Char) : Bool :=
  !(toEldoradoAccountSecret product).isEmpty && lacksMarker product rendered

/-- The end of `format_credential_for_marketplace` for Eldorado. -/
def eldoradoText (product : OwnedProduct) (rendered : List Char) : List Char :=
  if addsBundle product rendered = true then
    if rendered = [] then toEldoradoAccountSecret product
    else stripChars (rendered ++ "\n\n".toList ++ toEldoradoAccountSecret product)
  else rendered

/-- `(?im)^\s*Recovery Email\s*:` -/
def recoveryMention : Re :=
  .cat [.notBehind (· != '\n'), .star (.chars isSpaceChar), literalI "recovery email",
    .star (.chars isSpaceChar), .chars (· == ':')]

/-- **`append_playerauctions_recovery_email`** -/
def appendPlayerauctionsRecoveryEmail (instruction recoveryEmail : List Char) : List Char :=
  let normalizedInstruction := stripChars instruction
  let normalizedEmail := stripChars recoveryEmail
  if normalizedEmail = [] then normalizedInstruction
  else if (recoveryMention.search none normalizedInstruction).isSome then normalizedInstruction
  else
    stripChars (normalizedInstruction ++ '\n' :: ("Recovery Email: ".toList ++ normalizedEmail))

/-- `result.get("instruction", "\n".join(...))` of a dictionary, and a text itself. -/
def Content.instruction : Content → Entry
  | .text s => .text s
  | .dict entries =>
    (lookup entries instructionKey).getD (.text (unlines (entries.map fun e => e.2.shown)))

/-- **`format_credential_for_marketplace`**, of the spec found for the product. -/
def formatCredentialForMarketplace (legacy : OwnedProduct → Marketplace → List Char)
    (product : OwnedProduct) (marketplace : Marketplace) : Option CredentialSpec → Entry
  | some spec =>
    let result := (formatCredentialBySpec product spec marketplace).instruction
    match marketplace with
    | .eldorado => .text (eldoradoText product result.shownOr)
    | .playerauctions =>
      .text (appendPlayerauctionsRecoveryEmail result.shownOr product.securityEmail)
    | .gameboost => result
  | none =>
    let result := legacy product marketplace
    if marketplace = .playerauctions then
      .text (appendPlayerauctionsRecoveryEmail result product.securityEmail)
    else .text result

/-! ### replenisher.py -/

/-- `payload['autoDelivery']`, and the emails of its owners where they are dictionaries. -/
structure AutoDelivery where
  loginName : Entry := .text []
  retypeLoginName : Entry := .text []
  password : Entry := .text []
  retypePassword : Entry := .text []
  instruction : List Char := []
  original : Option Entry := none
  current : Option Entry := none
  deriving DecidableEq

/-- The credentials and the instruction, and the email of the owners unless it is empty. -/
def AutoDelivery.fill (d : AutoDelivery) (login password : Entry) (instruction : List Char)
    (ownerEmail : Entry) : AutoDelivery :=
  let owner := fun o : Option Entry =>
    if ownerEmail.truthy = true then o.map fun _ => ownerEmail else o
  { loginName := login, retypeLoginName := login, password := password,
    retypePassword := password, instruction := instruction,
    original := owner d.original, current := owner d.current }

/-- **`_apply_pa_auto_delivery_credentials`**, of the spec of the pool and of the spec found for
the product alone. -/
def applyPaAutoDeliveryCredentials (legacy : OwnedProduct → Marketplace → List Char)
    (autoDelivery : AutoDelivery) (product : OwnedProduct) (productSpec : Option CredentialSpec) :
    Option CredentialSpec → AutoDelivery
  | some spec =>
    let context := buildCredentialRenderContext product spec
    match spec.template .playerauctions with
    | some (.dict paTemplate) =>
      let rendered := paTemplate.map fun e => (e.1, e.2.map (renderString context))
      let get := fun key => (lookup rendered key).getD (.text [])
      autoDelivery.fill (get "loginName".toList) (get "password".toList)
        (appendPlayerauctionsRecoveryEmail (get instructionKey).shownOr product.securityEmail)
        (get "ownerEmail".toList)
    | _ =>
      let instruction := (formatCredentialBySpec product spec .playerauctions).instruction
      let value := fun role (key : String) =>
        (context ((buildFieldRoleMap spec.fields role).getD key.toList)).getD []
      autoDelivery.fill (.text (value .login "login")) (.text (value .password "password"))
        (appendPlayerauctionsRecoveryEmail instruction.shownOr product.securityEmail) (.text [])
  | none =>
    let instruction := formatCredentialForMarketplace legacy product .playerauctions productSpec
    autoDelivery.fill (.text product.login) (.text product.password)
      (appendPlayerauctionsRecoveryEmail instruction.shownOr product.securityEmail)
      (.text product.email)

end Sda.Formatter
