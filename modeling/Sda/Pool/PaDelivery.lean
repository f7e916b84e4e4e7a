/-
Sda/Pool/PaDelivery.lean

The delivery text of a PlayerAuctions listing (payload_pipeline/marketplaces/playerauctions.py and
base.py).

The text with the credentials is sanitized as a whole: emojis become a star, Cyrillic letters are
transliterated, what is left is decomposed (NFKD) and cut down to ASCII, and runs of stars become one.
Every step works on both sides of a printable ASCII character by itself, and leaves the character
alone; so a credential of such characters passes (`fold_between`, `collapse_of_single` for its
stars).  Nothing but ASCII comes out (`ascii_sanitizeText`): PlayerAuctions takes no
other text.

Main results: `infix_sanitizeText` — what passes; `delivery_text_faithful` — the credentials in both
payloads.
-/
import Sda.Pool.CredentialBundle
import Sda.Posting.TrackingCode

namespace Sda.PaDelivery

open Posting.TrackingCode (literal)

/-! ### _sanitize_text -/

/-- `unicodedata.normalize("NFKD", text)`: a printable ASCII character stays as it is, and nothing is
moved across it. -/
structure Normalizer where
  nfkd : List Char → List Char
  nfkd_nil : nfkd [] = []
  nfkd_ascii : ∀ x c y, c.toNat < 128 → nfkd (x ++ c :: y) = nfkd x ++ c :: nfkd y

/-- The letters of `_CYRILLIC_MAP`, with what they become. -/
def cyrillicLetters : List (String × String) :=
  [("а", "a"), ("б", "b"), ("в", "v"), ("г", "g"), ("д", "d"), ("е", "e"), ("ё", "e"), ("ж", "zh"),
    ("з", "z"), ("и", "i"), ("й", "y"), ("к", "k"), ("л", "l"), ("м", "m"), ("н", "n"), ("о", "o"),
    ("п", "p"), ("р", "r"), ("с", "s"), ("т", "t"), ("у", "u"), ("ф", "f"), ("х", "kh"),
    ("ц", "ts"), ("ч", "ch"), ("ш", "sh"), ("щ", "shch"), ("ъ", ""), ("ы", "y"), ("ь", ""),
    ("э", "e"), ("ю", "yu"), ("я", "ya"),
    ("А", "A"), ("Б", "B"), ("В", "V"), ("Г", "G"), ("Д", "D"), ("Е", "E"), ("Ё", "E"), ("Ж", "Zh"),
    ("З", "Z"), ("И", "I"), ("Й", "Y"), ("К", "K"), ("Л", "L"), ("М", "M"), ("Н", "N"), ("О", "O"),
    ("П", "P"), ("Р", "R"), ("С", "S"), ("Т", "T"), ("У", "U"), ("Ф", "F"), ("Х", "Kh"),
    ("Ц", "Ts"), ("Ч", "Ch"), ("Ш", "Sh"), ("Щ", "Shch"), ("Ъ", ""), ("Ы", "Y"), ("Ь", ""),
    ("Э", "E"), ("Ю", "Yu"), ("Я", "Ya")]

/-- `_CYRILLIC_MAP` -/
def cyrillicMap : List (Char × List Char) :=
  cyrillicLetters.flatMap fun p => p.1.toList.map fun c => (c, p.2.toList)

/-- The ranges of `_EMOJI_RE`. -/
def emojiRanges : List (Nat × Nat) :=
  [(0x1F600, 0x1F64F), (0x1F300, 0x1F5FF), (0x1F680, 0x1F6FF), (0x1F1E0, 0x1F1FF),
    (0x1FA00, 0x1FAFF), (0x1F900, 0x1F9FF), (0x2702, 0x27B0), (0xFE00, 0xFE0F), (0x200D, 0x200D),
    (0x25A0, 0x25FF), (0x2600, 0x26FF), (0x231A, 0x231B), (0x2934, 0x2935), (0x23E9, 0x23F3),
    (0x23F8, 0x23FA)]

def isEmoji (c : Char) : Bool := emojiRanges.any fun r => r.1 ≤ c.toNat && c.toNat ≤ r.2

/-- `_EMOJI_RE` -/
def emojiRe : Re := .plus (.chars isEmoji)

/-- `\*{2,}` -/
def starsRe : Re := .atLeast (literal "*") 2

/-- `result.append(_CYRILLIC_MAP[ch])` or the character itself. -/
def transliterate (c : Char) : List Char := (cyrillicMap.lookup c).getD [c]

/-- `str.isprintable` of an ASCII character. -/
def isPrintable (c : Char) : Bool := 0x20 ≤ c.toNat && c.toNat ≤ 0x7e

/-- What is kept of the decomposed text: combining marks are skipped, and so is the rest that is not
ASCII. -/
def isKept (c : Char) : Bool :=
  c.toNat ≤ 127 && (isPrintable c || c == '\n' || c == '\r' || c == '\t')

variable (n : Normalizer)

/-- The steps of `_sanitize_text` in front of the last. -/
def fold (text : List Char) : List Char :=
  (n.nfkd ((emojiRe.sub (fun _ => ['*']) none 0 text).flatMap transliterate)).filter isKept

/-- Runs of stars become one star. -/
def collapse (text : List Char) : List Char := starsRe.sub (fun _ => ['*']) none 0 text

/-- **`_sanitize_text`** -/
def sanitizeText (text : List Char) : List Char := if text = [] then text else collapse (fold n text)

/-! ### The payloads -/

/-- `ListingKind` -/
inductive ListingKind
  | stock | dropshipping
  deriving DecidableEq

/-- `_DISCLAIMER` -/
def disclaimer : List Char :=
  "Important: Do not make any dispute or leave negative feedback before we contact you in case of any problem. We resolve all issues for sure!".toList

/-- `_DROPSHIPPING_DELIVERY` -/
def dropshippingDelivery : List Char :=
  "Thanks for purchase.\nYour account is sending as soon as possible fast.".toList

/-- `"Not Found"` -/
def notFound : List Char := "Not Found".toList

/-- `re.sub(r"^https?://", "", link)` -/
def withoutScheme (link : List Char) : List Char :=
  let scheme : Re := .cat [literal "http", .opt (literal "s"), literal "://"]
  match scheme.first none link with
  | some k => link.drop k
  | none => link

/-- The lines for the email. -/
def emailLines (creds : CredentialBundle) : List (List Char) :=
  if creds.emailLogin ≠ [] ∧ creds.emailLogin ≠ notFound then
    ["E-mail -> ".toList ++ creds.emailLogin] ++
      (if creds.emailPassword ≠ [] ∧ creds.emailPassword ≠ notFound then
        ["E-mail Password -> ".toList ++ creds.emailPassword]
      else []) ++
      if creds.emailLoginLink ≠ [] then
        ["E-mail Login Link ->\n\t".toList ++ withoutScheme creds.emailLoginLink]
      else []
  else []

/-- **`_standard_delivery`** -/
def standardDelivery (creds : CredentialBundle) (platformName : List Char) : List Char :=
  unlines ([platformName ++ " -> ".toList ++ creds.login,
    platformName ++ " Password -> ".toList ++ creds.password] ++ emailLines creds ++ [disclaimer])

/-- The instructions in both payloads. -/
def deliveryInstructions (platformName : List Char) (creds : CredentialBundle) :
    ListingKind → List Char
  | .stock => sanitizeText n (standardDelivery creds platformName)
  | .dropshipping => sanitizeText n dropshippingDelivery

/-- The credentials in `autoDelivery`. -/
structure AutoDelivery where
  loginName : List Char
  retypeLoginName : List Char
  password : List Char
  retypePassword : List Char
  instruction : List Char

/-- **`build_payload`**: `isAuto` and `autoDelivery`. -/
def buildPayload (platformName : List Char) (creds : CredentialBundle) (kind : ListingKind) :
    Bool × AutoDelivery :=
  (kind = .stock,
    { loginName := creds.login
      retypeLoginName := creds.login
      password := creds.password
      retypePassword := creds.password
      instruction := deliveryInstructions n platformName creds kind })

/-- The columns of the Excel row that carry the credentials. -/
structure BulkRow where
  deliveryMethod : String
  autoLoginName : List Char
  password : List Char
  extraInformation : List Char
  loginName : List Char
  deliveryInfo : List Char

/-- **`build_bulk_payload`** -/
def buildBulkPayload (platformName : List Char) (creds : CredentialBundle) (kind : ListingKind) :
    BulkRow :=
  let instructions := deliveryInstructions n platformName creds kind
  let stock : Bool := kind = .stock
  { deliveryMethod := if stock then "Automatic" else "Manual"
    autoLoginName := if stock then creds.login else []
    password := if stock then creds.password else []
    extraInformation := if stock then instructions else []
    loginName := if stock then [] else creds.login
    deliveryInfo := if stock then [] else instructions }

/-! ### What passes the sanitizer -/

variable {c : Char} {n}

theorem isEmoji_ascii (h : c.toNat < 128) : isEmoji c = false := by
  have hranges : ∀ r ∈ emojiRanges, 128 ≤ r.1 := by decide
  apply List.any_eq_false.mpr
  intro r hr
  have := hranges r hr
  simp
  omega

theorem transliterate_ascii (h : c.toNat < 128) : transliterate c = [c] := by
  have hletters : ∀ p ∈ cyrillicMap, 128 ≤ p.1.toNat := by decide +kernel
  have hnone : cyrillicMap.lookup c = none := by
    rw [List.lookup_eq_none_iff]
    intro p hp
    have := hletters p hp
    simp only [bne_iff_ne, ne_eq]
    rintro rfl
    omega
  unfold transliterate
  rw [hnone]
  rfl

theorem blind_emojiRe (h : c.toNat < 128) : emojiRe.Blind c := ⟨isEmoji_ascii h, isEmoji_ascii h⟩

theorem emojiRe_append (h : c.toNat < 128) (b : Option Char) (x y : List Char) :
    emojiRe.sub (fun _ => ['*']) b 0 (x ++ c :: y) =
      emojiRe.sub (fun _ => ['*']) b 0 x ++ c :: emojiRe.sub (fun _ => ['*']) (some c) 0 y :=
  Re.sub_append (blind_emojiRe h) y (Nat.zero_le _)

/-- No emoji in an ASCII text. -/
theorem emojiRe_ascii {v : List Char} (hv : ∀ c ∈ v, c.toNat < 128) (b : Option Char) :
    emojiRe.sub (fun _ => ['*']) b 0 v = v := by
  have hblocked : emojiRe.Blocked fun c => c.toNat < 128 := Or.inl fun c hc => isEmoji_ascii hc
  exact Re.sub_blocked hblocked hv

theorem nfkd_ascii_append (n : Normalizer) {v : List Char} (hv : ∀ c ∈ v, c.toNat < 128)
    (y : List Char) : n.nfkd (v ++ y) = v ++ n.nfkd y := by
  induction v with
  | nil => rfl
  | cons c v ih =>
    have hstep := n.nfkd_ascii [] c (v ++ y) (hv c List.mem_cons_self)
    rw [n.nfkd_nil] at hstep
    show n.nfkd ([] ++ c :: (v ++ y)) = c :: (v ++ n.nfkd y)
    rw [hstep, ih fun d hd => hv d (List.mem_cons_of_mem c hd)]
    rfl

theorem flatMap_transliterate {v : List Char} (hv : ∀ c ∈ v, c.toNat < 128) :
    v.flatMap transliterate = v := by
  induction v with
  | nil => rfl
  | cons c v ih =>
    rw [List.flatMap_cons, transliterate_ascii (hv c List.mem_cons_self),
      ih fun d hd => hv d (List.mem_cons_of_mem c hd)]
    rfl

theorem isKept_of_isPrintable (h : isPrintable c) : isKept c := by
  have hbound : c.toNat ≤ 0x7e := by
    unfold isPrintable at h
    simp only [Bool.and_eq_true, decide_eq_true_eq] at h
    exact h.2
  have hascii : c.toNat ≤ 127 := by omega
  unfold isKept
  simp [hascii, h]

/-- **What stands between a blank and a line feed passes the steps, if it is printable ASCII.** -/
theorem fold_between (n : Normalizer) {v : List Char} (hv : ∀ c ∈ v, isPrintable c)
    (x y : List Char) :
    ∃ x' y', fold n (x ++ ' ' :: (v ++ '\n' :: y)) = x' ++ ' ' :: (v ++ '\n' :: y') := by
  have hascii : ∀ c ∈ v, c.toNat < 128 := by
    intro c hc
    have := hv c hc
    unfold isPrintable at this
    simp only [Bool.and_eq_true, decide_eq_true_eq] at this
    omega
  have hkept : v.filter isKept = v :=
    List.filter_eq_self.mpr fun c hc => isKept_of_isPrintable (hv c hc)
  have hblank : (' ').toNat < 128 := by decide
  have hnewline : ('\n').toNat < 128 := by decide
  unfold fold
  rw [emojiRe_append hblank, emojiRe_append hnewline, emojiRe_ascii hascii]
  rw [List.flatMap_append, List.flatMap_cons, List.flatMap_append, List.flatMap_cons,
    transliterate_ascii hblank, transliterate_ascii hnewline, flatMap_transliterate hascii]
  generalize emojiRe.sub (fun _ => ['*']) none 0 x = x
  generalize emojiRe.sub (fun _ => ['*']) (some '\n') 0 y = y
  show ∃ x' y', (n.nfkd (x.flatMap transliterate ++ ' ' ::
    (v ++ '\n' :: y.flatMap transliterate))).filter isKept = _
  rw [n.nfkd_ascii _ ' ' _ hblank, nfkd_ascii_append n hascii]
  have hstep := n.nfkd_ascii [] '\n' (y.flatMap transliterate) hnewline
  rw [n.nfkd_nil] at hstep
  rw [show '\n' :: y.flatMap transliterate = [] ++ '\n' :: y.flatMap transliterate from rfl, hstep]
  refine ⟨(n.nfkd (x.flatMap transliterate)).filter isKept,
    (n.nfkd (y.flatMap transliterate)).filter isKept, ?_⟩
  rw [List.filter_append, List.filter_cons_of_pos (by decide), List.filter_append, hkept]
  rfl

/-! ### Stars -/

theorem blind_starsRe (h : c ≠ '*') : starsRe.Blind c := by
  have hstar : (c == '*') = false := beq_eq_false_iff_ne.mpr h
  exact ⟨hstar, hstar, hstar⟩

/-- Two stars are needed. -/
theorem first_starsRe {b : Option Char} {c : Char} {x : List Char} (h : ¬['*', '*'] <+: c :: x) :
    starsRe.first b (c :: x) = none := by
  have hgo : Re.go starsRe (b, c :: x) = [] := by
    show ((if (c == '*') = true then [(some c, x)] else []).flatMap
      (Re.go (.seq (literal "*") (.star (literal "*"))))) = []
    by_cases hc : (c == '*') = true
    · rw [if_pos hc, List.flatMap_singleton]
      show (Re.go (literal "*") (some c, x)).flatMap (Re.go (.star (literal "*"))) = []
      cases x with
      | nil => rfl
      | cons d x =>
        have hd : ¬(d == '*') = true := by
          intro hd
          apply h
          rw [beq_iff_eq.mp hc, beq_iff_eq.mp hd]
          exact ⟨x, rfl⟩
        show (if (d == '*') = true then [(some d, x)] else []).flatMap _ = []
        rw [if_neg hd]
        rfl
    · rw [if_neg hc]
      rfl
  unfold Re.first
  rw [hgo]

/-- Stars that stand alone stay. -/
theorem collapse_of_single {v : List Char} (h : ¬['*', '*'] <:+: v) (b : Option Char) :
    starsRe.sub (fun _ => ['*']) b 0 v = v := by
  induction v generalizing b with
  | nil => rfl
  | cons c v ih =>
    have hhere : ¬['*', '*'] <+: c :: v := fun hstars => h hstars.isInfix
    have hrest : ¬['*', '*'] <:+: v := fun hstars => h (hstars.trans (List.suffix_cons c v).isInfix)
    show (match starsRe.first b (c :: v) with | some n => _ | none => _) = _
    rw [first_starsRe hhere]
    show c :: starsRe.sub (fun _ => ['*']) (some c) 0 v = c :: v
    rw [ih hrest]

/-- **A printable ASCII text between a blank and a line feed passes, if no two stars are in a row.** -/
theorem infix_sanitizeText (n : Normalizer) {v : List Char} (hv : ∀ c ∈ v, isPrintable c)
    (hstars : ¬['*', '*'] <:+: v) (x y : List Char) :
    v <:+: sanitizeText n (x ++ ' ' :: (v ++ '\n' :: y)) := by
  obtain ⟨x', y', hfold⟩ := fold_between n hv x y
  have hne : x ++ ' ' :: (v ++ '\n' :: y) ≠ [] := by simp
  unfold sanitizeText collapse
  rw [if_neg hne, hfold, Re.sub_append (blind_starsRe (by decide)) _ (Nat.zero_le _),
    Re.sub_append (blind_starsRe (by decide)) _ (Nat.zero_le _), collapse_of_single hstars]
  generalize starsRe.sub (fun _ => ['*']) none 0 x' = front
  generalize starsRe.sub (fun _ => ['*']) (some '\n') 0 y' = back
  exact ⟨front ++ [' '], '\n' :: back, by simp⟩

/-! ### Nothing but ASCII comes out -/

theorem ascii_sanitizeText (n : Normalizer) (text : List Char) :
    ∀ c ∈ sanitizeText n text, c.toNat < 128 := by
  unfold sanitizeText
  by_cases htext : text = []
  · rw [if_pos htext, htext]
    exact nofun
  · rw [if_neg htext]
    have hfold : ∀ c ∈ fold n text, c.toNat < 128 := by
      intro c hc
      have hkept : isKept c = true := (List.mem_filter.mp hc).2
      unfold isKept at hkept
      simp only [Bool.and_eq_true, decide_eq_true_eq] at hkept
      omega
    apply (Re.sub_rewrites starsRe (fun _ => ['*']) none (fold n text)).forall_mem _ hfold
    intro m _ _ c hc
    rw [List.mem_singleton.mp hc]
    decide

/-! ### The credentials in the payloads -/

variable (n) (platformName : List Char) (creds : CredentialBundle)

/-- Login and password end their lines, and something follows. -/
theorem standardDelivery_eq : ∃ back, standardDelivery creds platformName =
    platformName ++ " -> ".toList ++ creds.login ++ '\n' ::
      (platformName ++ " Password -> ".toList ++ creds.password ++ '\n' :: back) := by
  refine ⟨unlines (emailLines creds ++ [disclaimer]), ?_⟩
  have hne : emailLines creds ++ [disclaimer] ≠ [] := by simp
  unfold standardDelivery
  rw [List.cons_append, List.cons_append, List.cons_append, List.cons_append, List.nil_append,
    unlines_cons (List.cons_ne_nil _ _), unlines_cons hne]

/-- Each stands between a blank and a line feed. -/
theorem between_of_credential {v : List Char} (hv : v ∈ [creds.login, creds.password]) :
    ∃ x y, standardDelivery creds platformName = x ++ ' ' :: (v ++ '\n' :: y) := by
  obtain ⟨back, htext⟩ := standardDelivery_eq platformName creds
  rw [htext]
  rcases List.mem_pair.mp hv with rfl | rfl
  · refine ⟨platformName ++ " ->".toList,
      platformName ++ " Password -> ".toList ++ creds.password ++ '\n' :: back, ?_⟩
    rw [show " -> ".toList = " ->".toList ++ [' '] from rfl]
    simp only [List.append_assoc, List.cons_append, List.nil_append]
  · refine ⟨platformName ++ " -> ".toList ++ creds.login ++ '\n' ::
      (platformName ++ " Password ->".toList), back, ?_⟩
    rw [show " Password -> ".toList = " Password ->".toList ++ [' '] from rfl]
    simp only [List.append_assoc, List.cons_append, List.nil_append]

/-- **The credentials in the delivery text.**  What PlayerAuctions can take stands there as it is
stored; what it cannot never does. -/
theorem delivery_text_faithful {v : List Char} (hv : v ∈ [creds.login, creds.password]) :
    ((∀ c ∈ v, isPrintable c) → ¬['*', '*'] <:+: v →
      v <:+: (buildPayload n platformName creds .stock).2.instruction ∧
        v <:+: (buildBulkPayload n platformName creds .stock).extraInformation) ∧
    ((∃ c ∈ v, 128 ≤ c.toNat) →
      ¬v <:+: (buildPayload n platformName creds .stock).2.instruction ∧
        ¬v <:+: (buildBulkPayload n platformName creds .stock).extraInformation) := by
  have hpayload : (buildPayload n platformName creds .stock).2.instruction =
    sanitizeText n (standardDelivery creds platformName) := rfl
  have hbulk : (buildBulkPayload n platformName creds .stock).extraInformation =
    sanitizeText n (standardDelivery creds platformName) := rfl
  rw [hpayload, hbulk]
  constructor
  · intro hprintable hstars
    obtain ⟨x, y, htext⟩ := between_of_credential platformName creds hv
    rw [htext]
    have hpasses := infix_sanitizeText n hprintable hstars x y
    exact ⟨hpasses, hpasses⟩
  · rintro ⟨c, hc, hbeyond⟩
    have hlost : ¬v <:+: sanitizeText n (standardDelivery creds platformName) := by
      intro hthere
      have := ascii_sanitizeText n (standardDelivery creds platformName) c (hthere.subset hc)
      omega
    exact ⟨hlost, hlost⟩

/-- Where the text is ASCII, and for one letter after the other, nothing is decomposed. -/
def plainNormalizer : Normalizer where
  nfkd := id
  nfkd_nil := rfl
  nfkd_ascii _ _ _ _ := rfl

/-- An account. -/
def kevin : CredentialBundle := { login := "kevin18".toList, password := "p*ss w~rd".toList }

theorem delivery_text_faithful_at_kevin :
    kevin.password <:+:
      (buildPayload plainNormalizer "Account".toList kevin .stock).2.instruction := by
  have hv : kevin.password ∈ [kevin.login, kevin.password] := by simp
  have hprintable : kevin.password.all isPrintable = true := by decide
  have hstars : ¬['*', '*'] <:+: kevin.password :=
    fun h => absurd (h.sublist.count_le '*') (by decide)
  exact ((delivery_text_faithful plainNormalizer "Account".toList kevin hv).1
    (List.all_eq_true.mp hprintable) hstars).1

/-- An account with a Russian password. -/
def boris : CredentialBundle := { login := "boris".toList, password := "пароль".toList }

/-- The Russian password is written in Latin letters; and what is not delivered by itself has no
credentials in the text. -/
theorem password_transliterated :
    ¬boris.password <:+:
        (buildPayload plainNormalizer "Account".toList boris .stock).2.instruction ∧
      ¬kevin.password <:+:
        (buildBulkPayload plainNormalizer "Account".toList kevin .dropshipping).deliveryInfo := by
  constructor
  · have hletter : 'п' ∈ boris.password := by decide
    intro hthere
    have hascii := ascii_sanitizeText plainNormalizer (standardDelivery boris "Account".toList) 'п'
      (hthere.subset hletter)
    exact absurd hascii (by decide)
  · have hletter : '~' ∈ kevin.password := by decide
    have hnone : (sanitizeText plainNormalizer dropshippingDelivery).contains '~' = false := by
      decide +kernel
    intro hthere
    have hmem : '~' ∈ sanitizeText plainNormalizer dropshippingDelivery :=
      hthere.subset hletter
    rw [← List.contains_iff_mem, hnone] at hmem
    exact absurd hmem Bool.false_ne_true

end Sda.PaDelivery
