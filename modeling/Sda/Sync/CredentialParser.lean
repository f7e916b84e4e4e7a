/-
Sda/Sync/CredentialParser.lean

`parse_credentials_text` (sync/services/shared/credentials.py): the pass over labelled lines, the
positional fallback and the clean-up.

The labelled pass reads a line at a time and may take the next line for a value, so a step returns
the lines that are left; `labeledLoop` runs with as much fuel as there are lines.
-/
import Sda.Sync.CredentialLabels

namespace Sda.Sync.CredentialText

open Pattern

variable (t : Tables)

/-! ### The labelled pass -/

/-- The local variables of `_parse_labeled`. -/
structure Pass where
  result : ParsedCredentials := {}
  foundAny : Bool := false
  firstUnlabeled : Option (List Char) := none
  secondUnlabeled : Option (List Char) := none
  skipNextLine : Bool := false
  deriving DecidableEq

namespace Pass

/-- A field was found. -/
def found (p : Pass) (result : ParsedCredentials) : Pass :=
  { p with result := result, foundAny := true }

/-- `if first_unlabeled is None: first_unlabeled = line` -/
def first (p : Pass) (line : List Char) : Pass :=
  { p with firstUnlabeled := p.firstUnlabeled.or (some line) }

/-- The pairs of one line. -/
def assignAll (p : Pass) : List (List Char × List Char) → Pass
  | [] => p
  | (label, value) :: pairs =>
    match assignLabeled t label value p.result with
    | some result => assignAll (p.found result) pairs
    | none => assignAll p pairs

end Pass

/-- The stripped next line, empty if there is none. -/
def nextLine (rest : List (List Char)) : List Char := stripChars (rest.headD [])

/-- A line that mentions a security address. -/
def securityStep (line : List Char) (hit : Hit) (p : Pass) : Pass :=
  let before := stripChars (line.take hit.start)
  let p := p.found (fillField p.result .securityEmail (hit.groups.headD []))
  if before ≠ [] ∧ '@' ∈ before ∧ ':' ∈ before then p.first before else p

/-- A section header takes the next line that is not empty. -/
def headerStep (header : List Char) (rest : List (List Char)) (p : Pass) :
    Pass × List (List Char) :=
  match rest.dropWhile fun l => stripChars l == [] with
  | [] => (p, [])
  | pairLine :: rest => (p.found (parseSectionPair t header (stripChars pairLine) p.result), rest)

/-- What an arrow on a line comes to: the line is done, or the lines that are left for the colon. -/
inductive ArrowOutcome
  | done (p : Pass) (rest : List (List Char))
  | goOn (rest : List (List Char))

/-- The part of a step for `_ARROW_RE`. -/
def arrowStep (line : List Char) (rest : List (List Char)) (p : Pass) :
    Except PyError ArrowOutcome :=
  match arrowRe line with
  | none => .ok (.goOn rest)
  | some (label, value) =>
    match splitArrowPairs t line with
    | .error e => .error e
    | .ok (some pairs) => .ok (.done (p.assignAll t pairs) rest)
    | .ok none =>
      let value := stripChars value
      let next := nextLine rest
      let takesNext := value = [] ∧ next ≠ [] ∧ arrowRe next = none ∧ colonRe next = none
      let value := if takesNext then next else value
      let rest := if takesNext then rest.tail else rest
      match assignLabeled t (stripChars label) value p.result with
      | some result => .ok (.done (p.found result) rest)
      | none => .ok (.goOn rest)

/-- A label of the colon pattern that has not been assigned. -/
def emptyValueStep (line label value : List Char) (rest : List (List Char)) (p : Pass) :
    Pass × List (List Char) :=
  let next := nextLine rest
  match (if value = [] then fieldOf t label else none) with
  | some f =>
    if next ≠ [] ∧ p.result.get f = [] then (p.found (p.result.set f next), rest.tail)
    else if ':' ∈ next then (p.found (parseSectionPair t label next p.result), rest.tail)
    else (p.first line, rest)
  | none =>
    if (value = [] ∨ isLabelText t value = true) ∧ ':' ∈ next then
      (p.found (parseSectionPair t label next p.result), rest.tail)
    else (p.first line, rest)

/-- The part of a step for a label without an `@` and its value. -/
def labelStep (line label value : List Char) (rest : List (List Char)) (p : Pass) :
    Pass × List (List Char) :=
  if inlineSectionLabels.contains (stripChars (t.lower label)) ∧ ':' ∈ value then
    (p.found (parseSectionPair t label value p.result), rest)
  else
    match assignLabeled t label value p.result with
    | some result =>
      let result := if result.login = [] then extractLoginFromPasswordLabel t label result
        else result
      (p.found result, rest)
    | none => emptyValueStep t line label value rest p

/-- The part of a step for `_COLON_RE`. -/
def colonStep (line label value : List Char) (rest : List (List Char)) (p : Pass) :
    Except PyError (Pass × List (List Char)) :=
  if '@' ∈ label then .ok (p.first line, rest)
  else
    match splitColonPairs t line with
    | .error e => .error e
    | .ok (some pairs) =>
      if 2 ≤ pairs.length then .ok (p.assignAll t pairs, rest)
      else .ok (labelStep t line label value rest p)
    | .ok none => .ok (labelStep t line label value rest p)

/-- The part of a step for a line without a colon. -/
def bareStep (line : List Char) (rest : List (List Char)) (p : Pass) : Pass × List (List Char) :=
  match matchGroups spaceLabelRe line with
  | some groups =>
    match assignLabeled t (stripChars (groups.headD [])) (stripChars (groups.getD 1 []))
        p.result with
    | some result => (p.found result, rest)
    | none => (p, rest)
  | none =>
    let next := nextLine rest
    let bareField := (labelField (stripChars (t.lower line))).filter fun f =>
      next != [] && p.result.get f == [] && !shouldSkipLine t (t.lower next)
    match bareField with
    | some f => (p.found (p.result.set f next), rest.tail)
    | none =>
      if urlPattern line = true ∧ p.result.emailLoginLink = [] then
        (p.found (p.result.set .emailLoginLink line), rest)
      else if (matchGroups (bareDomainRe t) line).isSome ∧ p.result.emailLoginLink = [] then
        (p.found (p.result.set .emailLoginLink line), rest)
      else
        match matchGroups (emailPrefixRe t) line with
        | some groups =>
          let p := p.first (groups.headD [])
          match matchGroups spaceLabelRe (stripChars (groups.getD 1 [])) with
          | some labeled =>
            (p.found ((assignLabeled t (stripChars (labeled.headD []))
              (stripChars (labeled.getD 1 [])) p.result).getD p.result), rest)
          | none => (p, rest)
        | none =>
          if p.firstUnlabeled = none then (p.first line, rest)
          else ({ p with secondUnlabeled := p.secondUnlabeled.or (some line) }, rest)

/-- What a line is before it is looked at for separators. -/
inductive LineKind
  | blank | skipped | instruction
  | security (hit : Hit)
  | header (name : List Char)
  | plain

/-- The tests at the beginning of a step. -/
def lineKind (line : List Char) (p : Pass) : LineKind :=
  if line = [] then .blank
  else if p.skipNextLine = true then .skipped
  else if shouldSkipLine t (t.lower line) = true then .instruction
  else
    match search (isSecurityRe t) line with
    | some hit => .security hit
    | none =>
      match matchGroups sectionHeaderRe line with
      | some groups => .header (groups.headD [])
      | none => .plain

/-- **One round of the loop of `_parse_labeled`**: the new state and the lines that are left. -/
def labeledStep (raw : List Char) (rest : List (List Char)) (p : Pass) :
    Except PyError (Pass × List (List Char)) :=
  let line := stripChars raw
  match lineKind t line p with
  | .blank => .ok (p, rest)
  | .skipped => .ok ({ p with skipNextLine := false }, rest)
  | .instruction =>
    let lower := t.lower line
    let isFormat := "format".toList.isPrefixOf lower ||
      "format".toList.isPrefixOf (withoutSymbols t lower)
    .ok ({ p with skipNextLine := isFormat }, rest)
  | .security hit => .ok (securityStep line hit p, rest)
  | .header name => .ok (headerStep t name rest p)
  | .plain =>
    match arrowStep t line rest p with
    | .error e => .error e
    | .ok (.done p rest) => .ok (p, rest)
    | .ok (.goOn rest) =>
      match colonRe line with
      | some (label, value) => colonStep t line (stripChars label) (stripChars value) rest p
      | none => .ok (bareStep t line rest p)

/-- The loop of `_parse_labeled`. -/
def labeledLoop : Nat → List (List Char) → Pass → Except PyError Pass
  | _, [], p => .ok p
  | 0, _ :: _, p => .ok p
  | n + 1, raw :: rest, p =>
    match labeledStep t raw rest p with
    | .error e => .error e
    | .ok (p, rest) => labeledLoop n rest p

/-! ### The positional fallback -/

/-- **`_parse_single_token`** -/
def parseSingleToken (token_ : List Char) (result : ParsedCredentials) : ParsedCredentials :=
  let both := fun groups : List (List Char) =>
    fillField (result.set .login (groups.headD [])) .password (groups.getD 1 [])
  match matchGroups inlineLoginPassRe token_ with
  | some groups => both groups
  | none =>
    match matchGroups multiSpaceRe token_ with
    | some groups => both groups
    | none =>
      match matchGroups (emailSingleSpaceRe t) token_ with
      | some groups =>
        if (labelField (t.lower (groups.getD 1 []))).isSome then result.set .login token_
        else both groups
      | none => result.set .login token_

/-- `re.split(r'[|\s]+', rest)` -/
def splitRuns (rest : List Char) : List (List Char) :=
  match rest.splitOnP fun c => c == '|' || isSpaceChar c with
  | [] => []
  | part :: parts =>
    part :: (parts.dropLast.filter (· ≠ []) ++ parts.getLast?.toList)

/-- The mention of a reserve email at the end of a colon line: what it sets, and what is left of
the line. -/
def takeReserve (line : List Char) (result : ParsedCredentials) :
    ParsedCredentials × List Char :=
  match search reserveRe line with
  | none => (result, line)
  | some hit =>
    let parts := splitRuns (stripChars (hit.groups.headD []))
    let result := match parts[0]? with
      | some part => result.set .securityEmail part
      | none => result
    let result := match parts[1]? with
      | some part => result.set .securityEmailPassword part
      | none => result
    let result := match parts[2]? with
      | some part => if urlPattern part = true then result.set .emailLoginLink part else result
      | none => result
    (result, line.take hit.start)

/-- The mention of a security address at the end of a colon line. -/
def takeSecurity (line : List Char) (result : ParsedCredentials) :
    ParsedCredentials × List Char :=
  match search (isSecurityRe t) line with
  | none => (result, line)
  | some hit =>
    (fillField result .securityEmail (hit.groups.headD []), stripChars (line.take hit.start))

/-- **`_parse_colon_line`** -/
def parseColonLine (line : List Char) (result : ParsedCredentials) : ParsedCredentials :=
  let (result, line) := takeReserve line result
  let (result, line) := takeSecurity t line result
  let parts := line.splitOn ':'
  let part := fun i => stripChars (parts.getD i [])
  let result := if 2 ≤ parts.length then
      fillField (fillField result .login (part 0)) .password (part 1) else result
  if 4 ≤ parts.length then
    fillField (fillField result .email (part 2)) .emailPassword (part 3) else result

/-- The fields of `_parse_tab_separated`, in the order of the columns. -/
def tabFields : List CredentialField :=
  [.login, .password, .email, .emailPassword, .securityEmail, .securityEmailPassword,
    .emailLoginLink]

/-- **`_parse_tab_separated`** -/
def parseTabSeparated (text : List Char) (result : ParsedCredentials) : ParsedCredentials :=
  let parts := ((text.splitOn '\t').map stripChars).filter (· ≠ [])
  (tabFields.zip parts).foldl (fun r fp => r.set fp.1 fp.2) result

/-- `_extract_email_from_text` -/
def extractEmailFromText (text : List Char) : List Char :=
  ((search [.group (address t)] text).bind (·.groups.head?)).getD []

/-- Some word of a line for a security address. -/
def mentionsSecurity (lower : List Char) : Bool :=
  ["security", "reserve", "2fa"].any fun w => containsChars w.toList lower

/-- One line of the loop of `_parse_newline_pairs`: the fields, and whether the line is
unlabelled. -/
def newlineStep (line : List Char) (result : ParsedCredentials) : ParsedCredentials × Bool :=
  let lower := t.lower line
  if shouldSkipLine t lower = true then (result, false)
  else
    match search (isSecurityRe t) line with
    | some hit => (fillField result .securityEmail (hit.groups.headD []), false)
    | none =>
      let spaced := (matchGroups spaceLabelRe line).bind fun groups =>
        assignLabeled t (stripChars (groups.headD [])) (stripChars (groups.getD 1 [])) result
      let labeled := (colonRe line).bind fun lv =>
        if '@' ∈ stripChars lv.1 then none
        else assignLabeled t (stripChars lv.1) (stripChars lv.2) result
      match spaced.or labeled with
      | some result => (result, false)
      | none =>
        if urlPattern line = true ∧ result.emailLoginLink = [] then
          (result.set .emailLoginLink line, false)
        else if mentionsSecurity lower = true ∧ '@' ∈ line ∧ extractEmailFromText t line ≠ [] ∧
            result.securityEmail = [] then
          (result.set .securityEmail (extractEmailFromText t line), false)
        else if (matchGroups (plainDomainRe t) line).isSome ∧ result.emailLoginLink = [] then
          (result.set .emailLoginLink line, false)
        else (result, true)

/-- The loop of `_parse_newline_pairs`, with the unlabelled lines. -/
def newlineLoop : List (List Char) → ParsedCredentials → ParsedCredentials × List (List Char)
  | [], result => (result, [])
  | line :: lines, result =>
    let (result, unlabeled) := newlineStep t line result
    let (result, others) := newlineLoop lines result
    (result, if unlabeled = true then line :: others else others)

/-- **`_parse_newline_pairs`** -/
def parseNewlinePairs (lines : List (List Char)) (result : ParsedCredentials) :
    ParsedCredentials :=
  let (result, unlabeled) := newlineLoop t lines result
  ([CredentialField.login, .password].zip unlabeled).foldl (fun r fl => fillField r fl.1 fl.2)
    result

/-- A line behind the first one, in the branch of `_parse_positional` for several lines. -/
def moreStep (result : ParsedCredentials) (line : List Char) : ParsedCredentials :=
  match search (isSecurityRe t) line with
  | some hit => fillField result .securityEmail (hit.groups.headD [])
  | none =>
    if mentionsSecurity (t.lower line) = true then
      match colonRe line with
      | some (label, value) =>
        (assignLabeled t (stripChars label) (stripChars value) result).getD result
      | none =>
        let email := extractEmailFromText t line
        if email = [] then result else fillField result .securityEmail email
    else if ':' ∈ line ∧ '@' ∈ line then
      let emailPart := stripChars (line.takeWhile (· != ':'))
      let passPart := stripChars (line.dropWhile (· != ':')).tail
      if '@' ∈ emailPart then
        let result := fillField result .securityEmail emailPart
        if passPart = [] then result else fillField result .securityEmailPassword passPart
      else result
    else if urlPattern line = true ∧ result.emailLoginLink = [] then
      result.set .emailLoginLink line
    else if (matchGroups (plainDomainRe t) line).isSome ∧ result.emailLoginLink = [] then
      result.set .emailLoginLink line
    else result

/-- The end of `_parse_labeled`. -/
def finishLabeled (p : Pass) : ParsedCredentials :=
  let useFirst := p.foundAny = true ∧ p.result.login = [] ∧ (p.firstUnlabeled.getD []) ≠ []
  let first := p.firstUnlabeled.getD []
  let result :=
    if useFirst then
      if '\t' ∈ first then
        let parts := first.splitOn '\t'
        let result := p.result.set .login (stripChars (parts.getD 0 []))
        let second := stripChars (parts.getD 1 [])
        if second = [] then result else fillField result .password second
      else if ':' ∈ first then parseColonLine t first p.result
      else parseSingleToken t first p.result
    else p.result
  let first := if useFirst then [] else first
  if p.foundAny = true ∧ result.password = [] then
    let candidate := if first = [] then p.secondUnlabeled.getD [] else first
    if candidate ≠ [] ∧ shouldSkipLine t (t.lower candidate) = false then
      result.set .password candidate
    else result
  else result

/-- **`_parse_labeled`**: whether a field was found, and the fields. -/
def parseLabeled (text : List (List Char)) (result : ParsedCredentials) :
    Except PyError (Bool × ParsedCredentials) :=
  match labeledLoop t text.length text { result := result } with
  | .error e => .error e
  | .ok p => .ok (p.foundAny, finishLabeled t p)

/-- The lines of a text with the tabs taken for line breaks. -/
def tabLines (stripped : List Char) : List (List Char) :=
  (stripped.map fun c => if c = '\t' then '\n' else c).splitOn '\n'

/-- The test for labels in a text with tabs. -/
def hasLabels (stripped : List Char) : Bool :=
  (((tabLines stripped).map stripChars).filter (· ≠ [])).any fun l =>
    ((colonRe l).isSome && !(l.takeWhile (· != ':')).contains '@') ||
      (matchGroups spaceLabelRe l).isSome || (labelField (stripChars (t.lower l))).isSome

/-- The branches of `_parse_positional` for a text without tabs. -/
def parseLines (stripped : List Char) (result : ParsedCredentials) : ParsedCredentials :=
  match ((stripped.splitOn '\n').map stripChars).filter (· ≠ []) with
  | [] => result
  | [line] =>
    if ':' ∈ line then parseColonLine t line result else parseSingleToken t line result
  | line :: more =>
    if ':' ∈ line ∧ '@' ∈ line then more.foldl (moreStep t) (parseColonLine t line result)
    else parseNewlinePairs t (line :: more) result

/-- **`_parse_positional`** -/
def parsePositional (text : List Char) (result : ParsedCredentials) :
    Except PyError ParsedCredentials :=
  let stripped := stripChars text
  if '\t' ∈ stripped then
    if hasLabels t stripped = true then
      match parseLabeled t (tabLines stripped) result with
      | .error e => .error e
      | .ok (true, result) => .ok result
      | .ok (false, result) => .ok (parseTabSeparated stripped result)
    else .ok (parseTabSeparated stripped result)
  else .ok (parseLines t stripped result)

/-! ### The clean-up -/

/-- The fields in the order of the clean-up. -/
def allFields : List CredentialField :=
  [.login, .password, .email, .emailPassword, .emailLoginLink, .securityEmail,
    .securityEmailPassword]

/-- `_ARTIFACT_PREFIXES` -/
def artifactPrefixes : List (List Char) := [": ", "-> ", ":- "].map String.toList

/-- A value without the separator it may begin with. -/
def withoutArtifact (val : List Char) : List Char :=
  match artifactPrefixes.find? fun p => p.isPrefixOf val with
  | some p => stripChars (val.drop p.length)
  | none => val

/-- **`_strip_field_artifacts`** -/
def stripFieldArtifacts (result : ParsedCredentials) : ParsedCredentials :=
  allFields.foldl (fun r f => r.set f (withoutArtifact (r.get f))) result

/-- The tests of `_clear_bogus_values` for one value. -/
def isBogus (f : CredentialField) (val : List Char) : Bool :=
  let lower := t.lower val
  let isLabel := (labelField (lower.rdropWhile (· == ':'))).isSome
  shouldSkipLine t lower || (matchGroups bogusValueRe val).isSome ||
    ((f == .password || f == .email || f == .emailPassword) && isLabel) ||
    (f == .login && isLabel && !val.contains '@') ||
    (f == .login && !val.contains '@' && 4 ≤ (words val).length) ||
    (f == .email && !val.contains '@' && containsChars "password".toList lower)

/-- **`_clear_bogus_values`** -/
def clearBogusValues (result : ParsedCredentials) : ParsedCredentials :=
  allFields.foldl (fun r f =>
    if r.get f ≠ [] ∧ isBogus t f (r.get f) = true then r.set f [] else r) result

/-- **`_post_process`** -/
def postProcess (result : ParsedCredentials) : ParsedCredentials :=
  let result := clearBogusValues t (stripFieldArtifacts result)
  let result := if result.login = [] then result.set .login result.email else result
  let result := if result.email = [] ∧ '@' ∈ result.login then
      result.set .email result.login else result
  if result.password = [] ∧ result.emailPassword ≠ [] ∧ result.login ≠ [] ∧
      result.login = result.email then
    result.set .password result.emailPassword
  else result

/-! ### The parser -/

/-- The lines of a text, without a line that repeats the one before it. -/
def dedupLines (text : List Char) : List (List Char) := (text.splitOn '\n').destutter (· ≠ ·)

/-- **`parse_credentials_text`** -/
def parseCredentialsText (text : List Char) : Except PyError ParsedCredentials :=
  if stripChars text = [] then .ok {}
  else
    let lines := dedupLines text
    let text := joinChars ['\n'] lines
    match parseLabeled t lines {} with
    | .error e => .error e
    | .ok (true, labeled) =>
      let result := postProcess t labeled
      if result.login ≠ [] then .ok result
      else (parsePositional t text {}).map (postProcess t)
    | .ok (false, labeled) => (parsePositional t text labeled).map (postProcess t)

end Sda.Sync.CredentialText
