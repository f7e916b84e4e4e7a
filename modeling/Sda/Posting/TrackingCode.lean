/-
Sda/Posting/TrackingCode.lean

The tracking codes of PlayerAuctions listings (services/stock/pa_tracking.py) and what the relay
poster makes of a title (services/stock/pa_relay_poster.py).

A text is the list of its characters.  The patterns are those of the source, class by class;
`Unicode` is the character table of the interpreter, of which only the part below 128 is fixed.
-/
import Sda.Lib.Regex
import Sda.Lib.Text
import Sda.Pool.Models

namespace Sda.Posting.TrackingCode

/-- `str.isalnum` with the underscore, `str.isdecimal` and `str.upper`. -/
structure Unicode where
  word : Char → Bool
  digit : Char → Bool
  upper : Char → List Char
  word_ascii : ∀ c, c.toNat < 128 → word c = (c.isAlphanum || c == '_')
  digit_ascii : ∀ c, c.toNat < 128 → digit c = c.isDigit
  upper_ascii : ∀ c, c.toNat < 128 → upper c = [c.toUpper]

/-- The table of ASCII. -/
def asciiTable : Unicode where
  word c := c.isAlphanum || c == '_'
  digit c := c.isDigit
  upper c := [c.toUpper]
  word_ascii _ _ := rfl
  digit_ascii _ _ := rfl
  upper_ascii _ _ := rfl

/-! ### Classes and literals -/

/-- The letters beyond ASCII that `re.IGNORECASE` takes for this small letter. -/
def foldsTo (l c : Char) : Bool :=
  (l == 'i' && (c == Char.ofNat 0x130 || c == Char.ofNat 0x131)) ||
    (l == 's' && c == Char.ofNat 0x17f) || (l == 'k' && c == Char.ofNat 0x212a)

/-- A letter of a pattern under `re.IGNORECASE`. -/
def ignoreCase (l c : Char) : Bool := c.toLower == l || foldsTo l c

/-- `[A-Z0-9]` under `re.IGNORECASE`. -/
def alnum (c : Char) : Bool :=
  c.isAlphanum || foldsTo 'i' c || foldsTo 's' c || foldsTo 'k' c

/-- `[0-9A-F]` under `re.IGNORECASE`. -/
def hexDigit (c : Char) : Bool :=
  c.isDigit || ('a'.toNat ≤ c.toLower.toNat && c.toLower.toNat ≤ 'f'.toNat)

/-- A text, letter by letter. -/
def literal (s : String) : Re := .cat (s.toList.map fun l => .chars (· == l))

/-- A text under `re.IGNORECASE`, given in small letters. -/
def literalI (s : String) : Re := .cat (s.toList.map fun l => .chars (ignoreCase l))

variable (u : Unicode)

def digits : Re := .plus (.chars u.digit)

/-! ### pa_tracking.py -/

/-- `PA_TITLE_MAX_LENGTH` -/
def titleMaxLength : Nat := 150

/-- `_SHORT_CODE_RE` -/
def shortCode : Re :=
  .cat [.notBehind alnum, .chars (· == '#'), .times (.chars alnum) 6 2, .boundary u.word]

/-- `_LEGACY_POOL_CODE_RE` -/
def legacyPoolCode : Re :=
  .cat [.notBehind alnum, .chars (· == '#'), digits u, .chars (· == '-'),
    .times (.chars alnum) 5 3, .boundary u.word]

/-- `_LEGACY_TRACKING_CODE_RE` -/
def legacyTrackingCode : Re :=
  .cat [literalI "[pa-", .oneOf [
    .cat [literalI "j", digits u, literalI "-i", digits u],
    .cat [literalI "p", digits u, literalI "-k", digits u, literalI "-a",
      .times (.chars hexDigit) 8 0]], literalI "]"]

/-- `PA_TRACKING_CODE_RE` -/
def paTrackingCode : Re := .oneOf [shortCode u, legacyPoolCode u, legacyTrackingCode u]

/-- `_CODE_ALPHABET` -/
def codeAlphabet : List Char := "ABCDEFGHIJKLMNOPQRSTUVWXYZ0123456789".toList

/-- The digits that `_short_code` takes of the hash value. -/
def codeDigits : Nat → Nat → List Char
  | 0, _ => []
  | n + 1, value =>
    codeAlphabet.getD (value % codeAlphabet.length) 'A' ::
      codeDigits n (value / codeAlphabet.length)

/-- **`_short_code`**, of the hash value of the seed. -/
def shortCodeOf (value : Nat) : List Char := '#' :: codeDigits 6 value

/-- `s.strip()` -/
def strip (x : List Char) : List Char := (x.dropWhile isSpaceChar).rdropWhile isSpaceChar

/-- `s.upper()` -/
def upper (x : List Char) : List Char := x.flatMap u.upper

/-- `" ".join(s.split())` -/
def joinWords (x : List Char) : List Char :=
  List.intercalate [' '] ((x.splitOnP isSpaceChar).filter (· ≠ []))

/-- `re.fullmatch` -/
def fullmatch (r : Re) (x : List Char) : Bool := (r.go (none, x)).any (·.2.isEmpty)

/-- What is left of a title: no short or bracketed code, and room for the suffix. -/
def keptTitle (title : List Char) (room : Nat) : List Char :=
  let base := (legacyTrackingCode u).sub (fun _ => [' ']) none 0 title
  let base := (shortCode u).sub (fun _ => [' ']) none 0 base
  ((joinWords base).take room).rdropWhile isSpaceChar

/-- **`append_tracking_code_for_code`** -/
def appendTrackingCodeForCode (title code : List Char) (maxLength : Nat := titleMaxLength) :
    Except PyError (List Char) :=
  let normalized := upper u (strip code)
  if fullmatch (shortCode u) normalized = false then
    .error (.valueError
      "PlayerAuctions tracking code must use # plus six to eight letters or digits")
  else
    let suffix := ' ' :: normalized
    if maxLength ≤ suffix.length then
      .error (.valueError "PlayerAuctions title limit is too short for a tracking code")
    else
      let base := keptTitle u title (maxLength - suffix.length)
      .ok (if base = [] then normalized else base ++ suffix)

/-- `match.group(0).strip().upper().strip("[]")` -/
def codeOf (m : List Char) : List Char :=
  let bracket := fun c => c == '[' || c == ']'
  ((upper u (strip m)).dropWhile bracket).rdropWhile bracket

/-- **`extract_tracking_code`** -/
def extractTrackingCode : List (List Char) → List Char
  | [] => []
  | value :: values =>
    match (paTrackingCode u).search none value with
    | some m => codeOf u m
    | none => extractTrackingCode values

/-! ### pa_relay_poster.py -/

/-- `[\w-]` and `[@\w.-]` -/
def hostChar (c : Char) : Bool := u.word c || c == '-'

def hostBehind (c : Char) : Bool := hostChar u c || c == '@' || c == '.'

/-- `[^\s<]` -/
def pathChar (c : Char) : Bool := !isSpaceChar c && c != '<'

/-- `_WEB_ADDRESS_RE` -/
def webAddress : Re :=
  .alt
    (.cat [.notBehind (hostBehind u),
      .alt (.cat [literalI "http", .opt (literalI "s"), literalI "://"]) (literalI "www."),
      .plus (.chars pathChar)])
    (.cat [.notBehind (hostBehind u),
      .plus (.cat [.plus (.chars (hostChar u)), literal "."]),
      .oneOf [literalI "com", literalI "net", literalI "org", literalI "gg", literalI "io",
        literalI "me", literalI "co", literalI "ru", literalI "tv", literalI "email"],
      .boundary u.word, .opt (.cat [literal "/", .star (.chars pathChar)])])

/-- `[^\x20-\x7E\n\r\t]` -/
def notPrintable (c : Char) : Bool :=
  !(0x20 ≤ c.toNat && c.toNat ≤ 0x7e) && c != '\n' && c != '\r' && c != '\t'

/-- `\b(20)(18|13|16|17)\b` -/
def bannedYear : Re :=
  .cat [.boundary u.word, literal "20",
    .oneOf [literal "18", literal "13", literal "16", literal "17"], .boundary u.word]

/-- `(?<!\d)13(?![\dx])`, and the same for 18. -/
def bannedNumber (n : String) : Re :=
  .cat [.notBehind u.digit, literal n, .notAhead fun c => u.digit c || c == 'x']

def spaces : Re := .star (.chars isSpaceChar)

/-- The banned words. -/
def voiceChat : Re :=
  .cat [.boundary u.word, literalI "voice", spaces, literalI "chat", .boundary u.word]

def voiceVerified : Re :=
  .cat [.boundary u.word, literalI "voice", spaces, literalI "verified", .boundary u.word]

def voice : Re := .cat [.boundary u.word, literalI "voice", .boundary u.word]

def hack : Re :=
  .cat [.boundary u.word, literalI "hack",
    .opt (.oneOf [literalI "ed", literalI "ing", literalI "s"]), .boundary u.word]

def blank (c : Char) : Bool := c == ' ' || c == '\t'

/-- Non-ASCII becomes a star. -/
def ascii (c : Char) : Char := if c.toNat < 128 then c else '*'

/-- What `pa_sanitize` does after it has taken out the web addresses; the text starts after this
character. -/
def clean (b : Option Char) (x : List Char) : List Char :=
  let x := x.map ascii
  let x := (Re.chars notPrintable).sub (fun _ => []) b 0 x
  let x := (Re.atLeast (literal "*") 2).sub (fun _ => ['*']) b 0 x
  let x := (bannedYear u).sub (fun m => m.take 2 ++ '-' :: m.drop 2) b 0 x
  let x := (bannedNumber u "13").sub (fun _ => "1-3".toList) b 0 x
  let x := (bannedNumber u "18").sub (fun _ => "1-8".toList) b 0 x
  let x := (voiceChat u).sub (fun _ => []) b 0 x
  let x := (voiceVerified u).sub (fun _ => []) b 0 x
  let x := (voice u).sub (fun _ => []) b 0 x
  let x := (hack u).sub (fun _ => []) b 0 x
  let x := (Re.atLeast (.chars blank) 2).sub (fun _ => [' ']) b 0 x
  (Re.cat [literal ",", spaces, literal ","]).sub (fun _ => [',']) b 0 x

/-- **`pa_sanitize`** -/
def paSanitize (text : List Char) : List Char :=
  if text = [] then text
  else strip (clean u none ((webAddress u).sub (fun _ => []) none 0 text))

/-- A row for `PARelayPoster.post_batch`: a payload with a `serverId`, or an Excel row. -/
inductive PaRow
  | json (title : List Char)
  | excel (title : List Char)
  deriving DecidableEq, Repr

/-- Its `title`, or its `Title`. -/
def PaRow.title : PaRow → List Char
  | .json title | .excel title => title

def PaRow.setTitle (title : List Char) : PaRow → PaRow
  | .json _ => .json title
  | .excel _ => .excel title

/-- **`_post_pa_excel_row`**: the row with the code in its title. -/
def withTrackingCode (row : PaRow) (listingTitle code : List Char) : Except PyError PaRow :=
  (appendTrackingCodeForCode u (if row.title = [] then listingTitle else row.title) code).map
    row.setTitle

/-- **`post_batch`** and **`_build_json_payload`**: the title that is sent. -/
def sentTitle (row : PaRow) : List Char := (paSanitize u row.title).take 150

end Sda.Posting.TrackingCode
