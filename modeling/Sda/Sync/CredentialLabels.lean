/-
Sda/Sync/CredentialLabels.lean

The lines of a credential text, as the parser takes them apart
(sync/services/shared/credentials.py): the tables of labels, the patterns, and the splitting of a
line into labels and values.

The patterns with alternatives are regular expressions with groups; a line with a colon or an arrow
is cut directly.  The lines that are given to the patterns have no line break in them.
`str.index` raises a `ValueError` where it finds nothing.
-/
import Sda.Lib.Capture
import Sda.Posting.TrackingCode
import Sda.Sync.Credentials

namespace Sda.Sync.CredentialText

open Pattern
open Posting.TrackingCode (Unicode literalI)

/-- The tables of the interpreter: the classes of characters, and `str.lower`, which is not done
letter by letter (the final sigma), but does not look across a blank. -/
structure Tables extends Unicode where
  lower : List Char → List Char
  lower_ascii : ∀ x : List Char, (∀ c ∈ x, c.toNat < 128) → lower x = x.map Char.toLower
  lower_blank : ∀ x y : List Char, lower (x ++ ' ' :: y) = lower x ++ ' ' :: lower y

/-! ### Tables -/

/-- `_LABEL_MAP` -/
def labelMap : List (String × CredentialField) :=
  (["login", "username", "account", "id", "device id", "account login", "epic", "riot", "steam",
    "ubi", "ubisoft", "valorant", "fortnite", "roblox", "apex", "cod", "pubg", "genshin",
    "minecraft", "epic games", "epic mail", "supercell id", "riot id", "steam id", "psn id",
    "psn id and mail", "psn username", "xbox id", "xbox username", "rockstar id", "account mail",
    "mail adress", "mail address"].map (·, .login)) ++
  (["pass", "password", "device password", "account password", "epic password", "epic p",
    "epic pw", "epic games password", "epic games & mail password", "psn password",
    "xbox password", "mail and psn password", "riot account password", "roblox account password",
    "supercell id password", "steam password", "rockstar password",
    "rockstar account password"].map (·, .password)) ++
  (["email", "e-mail", "mail", "email login"].map (·, .email)) ++
  (["email password", "e-mail password", "email pass", "mail password", "mail p", "mail pw",
    "mail pass", "mail pasword", "e mail password"].map (·, .emailPassword)) ++
  (["email login link", "e-mail login link", "email sign in link", "e-mail sign in link",
    "mail login link", "mail login", "mail log in", "mail sign in link", "mail sign-in",
    "mail site", "2fa website", "rockstar mail login link", "mail log in here",
    "mail domain"].map (·, .emailLoginLink)) ++
  (["security email", "security mail", "reserve email", "2fa mail", "2fa email",
    "rockstar email", "rockstar mail"].map (·, .securityEmail)) ++
  (["security email password", "security mail password", "rockstar email password",
    "rockstar mail password"].map (·, .securityEmailPassword))

/-- `_LABEL_MAP.get(label)` -/
def labelField (label : List Char) : Option CredentialField :=
  (labelMap.find? (·.1.toList == label)).map (·.2)

/-- `_INLINE_SECTION_LABELS` -/
def inlineSectionLabels : List (List Char) :=
  ["account info", "mail info", "epic info"].map String.toList

/-- `_SECTION_FIELD_MAP` -/
def sectionFieldMap : List (String × CredentialField × CredentialField) :=
  [("epic", .login, .password), ("riot", .login, .password), ("rainbow", .login, .password),
    ("ubisoft", .login, .password), ("ubi", .login, .password), ("steam", .login, .password),
    ("account", .login, .password), ("e-mail", .email, .emailPassword),
    ("email", .email, .emailPassword), ("mail", .email, .emailPassword)]

/-- `_SKIP_PREFIXES` -/
def skipPrefixes : List (List Char) :=
  ["important", "you need to", "do not", "don't", "your epic games password",
    "thanks for purchase", "your account is sending", "if ps5 password", "if ps4 password",
    "you can login in", "no pass", "not a 24/7", "please wait", "we resolve", "format", "how to",
    "go to", "paste the", "it will generate", "use the", "want to change", "you can log",
    "all changes", "only use", "change email", "your purchase", "login instructions",
    "secret key", "webmail login", "date of birth"].map String.toList

/-- `_LOGIN_PREFIX_REJECT` -/
def loginPrefixReject : List (List Char) :=
  ["epic", "games", "mail", "email", "e-mail", "psn", "xbox", "riot", "steam", "rockstar",
    "ubisoft", "account", "device", "supercell", "roblox", "&", "and", "password",
    "the"].map String.toList

/-! ### Words -/

/-- `s.split()` -/
def words (s : List Char) : List (List Char) := (s.splitOnP isSpaceChar).filter (· ≠ [])

/-- `" ".join(words)` -/
def joinWords (ws : List (List Char)) : List Char := joinChars [' '] ws

/-- `s.index(pat, start)` -/
def indexFrom (pat s : List Char) (start : Nat) : Option Nat :=
  (findChars pat (s.drop start)).map (· + start)

/-- `s[start:stop]` -/
def slice (s : List Char) (start stop : Nat) : List Char := (s.take stop).drop start

variable (t : Tables)

/-- **`_suffix_match_label`** -/
def suffixMatchLabel (normalized : List Char) : Option CredentialField :=
  (words normalized).tails.tail.findSome? fun ws => labelField (joinWords ws)

/-! ### Patterns -/

/-- `\s` -/
def space : Re := .chars isSpaceChar

/-- `\s+` -/
def spaces : Re := .plus space

/-- `.` -/
def dot : Re := .chars (· != '\n')

/-- `$`, of a text without a line break. -/
def stop : Re := .notAhead fun _ => true

/-- `[\w.+-]+@[\w.-]+\.\w+` -/
def address : Re :=
  .cat [.plus (.chars fun c => t.word c || c == '.' || c == '+' || c == '-'), .chars (· == '@'),
    .plus (.chars fun c => t.word c || c == '.' || c == '-'), .chars (· == '.'),
    .plus (.chars t.word)]

/-- `_ARROW_RE`, behind the label: blanks, dashes and the head of the arrow. -/
def arrowTail (x : List Char) : Option (List Char) :=
  let dashes := x.dropWhile isSpaceChar
  match dashes, dashes.dropWhile (· == '-') with
  | '-' :: _, '>' :: rest => some (rest.dropWhile isSpaceChar)
  | _, _ => none

/-- `_ARROW_RE`, with so much of the label read. -/
def arrowFrom (label : List Char) : List Char → Option (List Char × List Char)
  | [] => none
  | c :: x =>
    match arrowTail (c :: x) with
    | some value => some (label, value)
    | none => arrowFrom (label ++ [c]) x

/-- `_ARROW_RE = ^(.+?)\s*-+>\s*(.*)$`: the label is as short as it can be. -/
def arrowRe : List Char → Option (List Char × List Char)
  | [] => none
  | c :: x => arrowFrom [c] x

/-- `_COLON_RE = ^(.+?):\s*(.*)$`: up to the first colon behind the first character. -/
def colonRe : List Char → Option (List Char × List Char)
  | [] => none
  | c :: x =>
    match x.dropWhile (· != ':') with
    | [] => none
    | _ :: value => some (c :: x.takeWhile (· != ':'), value.dropWhile isSpaceChar)

/-- `_SPACE_LABEL_RE` -/
def spaceLabelRe : List Piece :=
  [.group (.oneOf [.cat [literalI "mail", spaces, literalI "password"],
      .cat [literalI "psn", spaces, literalI "password"],
      .cat [literalI "epic", spaces, literalI "password"],
      .cat [literalI "epic", spaces, literalI "pw"], .cat [literalI "mail", spaces, literalI "pw"],
      .cat [literalI "epic", spaces, literalI "p"], .cat [literalI "mail", spaces, literalI "p"]]),
    .skip spaces, .group (.plus dot), .skip stop]

/-- `_SECTION_HEADER_RE` -/
def sectionHeaderRe : List Piece :=
  [.group (.oneOf [.cat [literalI "epic", spaces, literalI "games", spaces, literalI "details"],
      .cat [literalI "e", .opt (.chars (· == '-')), literalI "mail", spaces,
        .oneOf [literalI "details",
          .cat [literalI "sign", .star space, literalI "in", spaces, literalI "details"]]],
      .cat [literalI "riot", spaces, literalI "sign", .star space, literalI "in", spaces,
        literalI "details"],
      .cat [literalI "rainbow", spaces, literalI "sign", .star space, literalI "in", spaces,
        literalI "details"],
      .cat [literalI "ubisoft", spaces, literalI "sign", spaces, literalI "details"],
      .cat [literalI "account", spaces, .opt (.seq (literalI "login") spaces),
        literalI "details"],
      .cat [literalI "account", spaces, literalI "info"],
      .cat [literalI "mail", spaces, literalI "info"],
      literalI "epic", literalI "riot", literalI "ubi", literalI "ubisoft", literalI "steam",
      literalI "mail"]),
    .skip (.star space), .skip (.star (.chars fun c => c == '-' || c == ':' || c == '>')),
    .skip (.star space), .skip stop]

/-- `_URL_PATTERN.search` -/
def urlPattern (line : List Char) : Bool :=
  ["http://", "https://", ".com/", ".ltd/", ".ru/"].any fun p => containsChars p.toList line

/-- `_IS_SECURITY_RE` -/
def isSecurityRe : List Piece :=
  [.group (address t), .skip (.cat [spaces, literalI "is", spaces, literalI "security", spaces,
    .oneOf [literalI "mail", literalI "maik"]])]

/-- `_BARE_DOMAIN_RE` -/
def bareDomainRe : List Piece :=
  [.skip (.opt (.seq (literalI "mail") (.chars (· == '.')))),
    .skip (.plus (.chars fun c => t.word c || c == '.' || c == '-')), .skip (.chars (· == '.')),
    .skip (.oneOf (["ru", "com", "ltd", "net", "org", "io"].map literalI)), .skip stop]

/-- `_BOGUS_VALUE_RE` -/
def bogusValueRe : List Piece :=
  let come := .cat [literalI "come", .star space, .opt (.seq (literalI "to") (.star space))]
  [.skip (.oneOf [.seq come (.oneOf (["ch", "ca", "ac", "cc"].map literalI)),
    .seq come (literalI "char"), .seq (literalI "come") stop])]

/-- `_EMAIL_PREFIX_RE` -/
def emailPrefixRe : List Piece :=
  [.group (address t), .skip (.atLeast space 2), .group (.plus dot), .skip stop]

/-- `_MULTI_ARROW_LABEL_RE` -/
def multiArrowLabelRe : List Piece :=
  let letter := .chars Char.isAlpha
  let rest := .star (.chars fun c => t.word c || c == '-')
  [.skip (.alt (.notBehind fun _ => true) space),
    .group (.seq (.star (.cat [letter, rest, spaces])) (.seq letter rest)),
    .skip (.star space), .skip (.plus (.chars (· == '-'))), .skip (.chars (· == '>'))]

/-- `\S+` -/
def token : Re := .plus (.chars fun c => !isSpaceChar c)

/-- `_MULTI_SPACE_RE` -/
def multiSpaceRe : List Piece :=
  [.group token, .skip (.atLeast space 2), .group token, .skip stop]

/-- `_EMAIL_SINGLE_SPACE_RE` -/
def emailSingleSpaceRe : List Piece :=
  [.group (address t), .skip spaces, .group token, .skip stop]

/-- `_INLINE_LOGIN_PASS_RE` -/
def inlineLoginPassRe : List Piece :=
  let sep := .plus (.chars fun c => isSpaceChar c || c == ':' || c == '-')
  [.skip (literalI "login"), .skip sep, .group token, .skip spaces, .skip (literalI "password"),
    .skip sep, .group token, .skip stop]

/-- The mention of a reserve email at the end of a line, in `_parse_colon_line`. -/
def reserveRe : List Piece :=
  [.skip spaces, .skip (.oneOf (["reserve", "security", "2fa"].map literalI)), .skip spaces,
    .skip (.oneOf (["email", "mail"].map literalI)), .skip (.star space),
    .skip (.chars (· == ':')), .skip (.star space), .group (.plus dot)]

/-- `^[\w.-]+\.\w{2,}$` -/
def plainDomainRe : List Piece :=
  [.skip (.plus (.chars fun c => t.word c || c == '.' || c == '-')), .skip (.chars (· == '.')),
    .skip (.atLeast (.chars t.word) 2), .skip stop]

/-! ### Lines and values -/

/-- Some prefix of a line that is no credential. -/
def hasSkipPrefix (x : List Char) : Bool := skipPrefixes.any fun p => p.isPrefixOf x

/-- `_LEADING_SYMBOLS_RE.sub('', lower).strip()` -/
def withoutSymbols (lower : List Char) : List Char :=
  stripChars (lower.dropWhile fun c => !t.word c || c == '_')

/-- **`_should_skip_line`** -/
def shouldSkipLine (lower : List Char) : Bool :=
  hasSkipPrefix lower || hasSkipPrefix (withoutSymbols t lower)

/-- `value.lower().rstrip(':') in _LABEL_MAP` -/
def isLabelText (value : List Char) : Bool :=
  (labelField ((t.lower value).rdropWhile (· == ':'))).isSome

/-- The value without the leading `- ` of the separator `:-`. -/
def withoutDash (value : List Char) : List Char :=
  if value.head? = some '-' then stripChars (value.dropWhile fun c => c == '-' || c == ' ')
  else value

/-- `_LABEL_MAP.get(normalized)`, or of a suffix of its words. -/
def fieldOf (label : List Char) : Option CredentialField :=
  let normalized := stripChars (t.lower label)
  (labelField normalized).or (suffixMatchLabel normalized)

/-- The value is set where there is none yet. -/
def fillField (result : ParsedCredentials) (f : CredentialField) (value : List Char) :
    ParsedCredentials :=
  if result.get f = [] then result.set f value else result

/-- **`_assign_labeled`**: none where it returns false. -/
def assignLabeled (label value : List Char) (result : ParsedCredentials) :
    Option ParsedCredentials :=
  if value = [] then none
  else
    let value := withoutDash value
    if value = [] then none
    else if isLabelText t value = true then none
    else
      match fieldOf t label with
      | none => none
      | some f =>
        let parts0 := value.takeWhile (· != ':')
        if (f = .login ∨ f = .email) ∧ '@' ∈ value ∧ ':' ∈ value ∧ '@' ∈ parts0 then
          let parts1 := (value.dropWhile (· != ':')).tail
          let result := fillField result f (stripChars parts0)
          if stripChars parts1 ≠ [] then
            some (fillField result .emailPassword (stripChars parts1))
          else some result
        else some (fillField result f value)

/-- **`_parse_section_pair`** -/
def parseSectionPair (header pairLine : List Char) (result : ParsedCredentials) :
    ParsedCredentials :=
  let headerLower := stripChars (t.lower header)
  let fields := ((sectionFieldMap.find? fun s => containsChars s.1.toList headerLower).map
    (·.2)).getD (.login, .password)
  let cleaned := stripChars ((pairLine.dropWhile (· == ':')).rdropWhile (· == ':'))
  if cleaned = [] then result
  else
    match colonRe pairLine with
    | some (label, value) =>
      let loginVal := stripChars label
      let passVal := stripChars value
      let normalized := t.lower loginVal
      if loginVal ≠ [] ∧ '@' ∉ loginVal ∧
          ((labelField normalized).or (suffixMatchLabel normalized)).isSome then
        (assignLabeled t loginVal passVal result).getD result
      else
        let result := if loginVal = [] then result else fillField result fields.1 loginVal
        if passVal = [] then result else fillField result fields.2 passVal
    | none => fillField result fields.1 pairLine

/-- The last loop of `_extract_login_from_password_label`. -/
def loginFromPrefix (words_ originalWords : List (List Char)) (result : ParsedCredentials) :
    List Nat → ParsedCredentials
  | [] => result
  | start :: starts =>
    if labelField (joinWords (words_.drop start)) = some .password then
      let joined := stripChars (joinWords (originalWords.take start))
      let stripped := stripChars (joined.dropWhile (· == ':'))
      let login := stripChars (stripped.rdropWhile fun c => c == ',' || c == ':' || c == ';')
      if login = [] then result
      else if (words login).any fun w => loginPrefixReject.contains (t.lower w) then result
      else result.set .login login
    else loginFromPrefix words_ originalWords result starts

/-- **`_extract_login_from_password_label`** -/
def extractLoginFromPasswordLabel (label : List Char) (result : ParsedCredentials) :
    ParsedCredentials :=
  let normalized := stripChars (t.lower label)
  if (labelField normalized).isSome then result
  else
    let words_ := words normalized
    loginFromPrefix t words_ (words (stripChars label)) result (List.range words_.length).tail

/-! ### Several pairs on one line -/

/-- The pairs of `_split_arrow_pairs`, of the matches that are left. -/
def arrowPairs (line : List Char) :
    List (Nat × Nat × List (List Char)) → Except PyError (List (List Char × List Char))
  | [] => .ok []
  | (_, stop, groups) :: more =>
    match indexFrom ['-', '>'] line (stop - 2) with
    | none => .error (.valueError "substring not found")
    | some i =>
      let arrowEnd := i + 2 +
        ((line.drop (i + 2)).takeWhile fun c => c == ' ' || c == '>').length
      let valueEnd := match more with | (start, _, _) :: _ => start | [] => line.length
      let value := stripChars (slice line arrowEnd valueEnd)
      match arrowPairs line more with
      | .ok pairs => .ok ((stripChars (groups.headD []), value) :: pairs)
      | .error e => .error e

/-- **`_split_arrow_pairs`** -/
def splitArrowPairs (line : List Char) : Except PyError (Option (List (List Char × List Char))) :=
  let splits := findAll (multiArrowLabelRe t) line.length 0 (none, line)
  if splits.length < 2 then .ok none else (arrowPairs line splits).map some

/-- The longest label of the table that ends the text, word by word, and where it starts. -/
def bestLabel (before : List Char) :
    List (List (List Char)) → Option (List Char × Nat) → Except PyError (Option (List Char × Nat))
  | [], best => .ok best
  | ws :: more, best =>
    let candidate := joinWords ws
    if '@' ∈ candidate then bestLabel before more best
    else if (labelField (t.lower candidate)).isSome then
      match indexFrom candidate before (before.length - candidate.length - 1) with
      | none => .error (.valueError "substring not found")
      | some start =>
        bestLabel before more <|
          if best.all fun b => b.1.length < candidate.length then some (candidate, start) else best
    else bestLabel before more best

/-- The text before a colon, without the blanks at its end. -/
def beforeColon (line : List Char) (cp : Nat) : List Char := (line.take cp).rdropWhile isSpaceChar

/-- The labels before the colons of a line: start, colon, label. -/
def pairStarts (line : List Char) : List Nat → Except PyError (List (Nat × Nat × List Char))
  | [] => .ok []
  | cp :: more =>
    let before := beforeColon line cp
    if before = [] then pairStarts line more
    else
      match bestLabel t before ((words before).tails.dropLast) none with
      | .error e => .error e
      | .ok best =>
        match pairStarts line more with
        | .error e => .error e
        | .ok starts =>
          match best with
          | some (label, start) => .ok ((start, cp, label) :: starts)
          | none => .ok starts

/-- The pairs of `_split_colon_pairs`. -/
def colonPairs (line : List Char) : List (Nat × Nat × List Char) → List (List Char × List Char)
  | [] => []
  | (_, cp, label) :: more =>
    let valueStart := cp + 1 + ((line.drop (cp + 1)).takeWhile (· == ' ')).length
    let valueEnd := match more with | (start, _, _) :: _ => start | [] => line.length
    (label, stripChars (slice line valueStart valueEnd)) :: colonPairs line more

/-- `[i for i, c in enumerate(line) if c == ':']` -/
def colonPositions (line : List Char) : List Nat :=
  (List.range line.length).filter fun i => (line)[i]? == some ':'

/-- **`_split_colon_pairs`** -/
def splitColonPairs (line : List Char) : Except PyError (Option (List (List Char × List Char))) :=
  let positions := colonPositions line
  if positions.length < 2 then .ok none
  else
    match pairStarts t line positions with
    | .error e => .error e
    | .ok starts => if starts.length < 2 then .ok none else .ok (some (colonPairs line starts))

end Sda.Sync.CredentialText
