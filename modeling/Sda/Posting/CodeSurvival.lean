/-
Sda/Posting/CodeSurvival.lean

Whether the tracking code of a PlayerAuctions listing survives the way to the marketplace.

The code goes to the end of the title, and then the title is sanitized and cut.  At the `#` of the
code the sanitizer falls apart (`clean_append`): it works on the title in front and on the code by
themselves.  So the code survives exactly if the sanitizer leaves it alone, and leaves room for it
behind the title and no other code in front.

* `code_survives_iff` — the exact condition, for every title and every code;
* `code_lost` — `#ABC13D` becomes `#ABC1-3D`, and no code is found.
-/
import Sda.Posting.TrackingCode

namespace Sda.Posting.TrackingCode

-- a statement about the characters of a list is decided on the list, not on every character
local instance decidableForallChars (l : List Char) (p : Char → Prop) [DecidablePred p] :
    Decidable (∀ c ∈ l, p c) :=
  List.decidableBAll p l

variable {u : Unicode}

/-! ### Codes -/

/-- A tracking code: # and six to eight characters of the alphabet. -/
structure Code where
  body : List Char
  length : 6 ≤ body.length ∧ body.length ≤ 8
  alphabet : ∀ c ∈ body, c ∈ codeAlphabet

def Code.text (code : Code) : List Char := '#' :: code.body

theorem length_codeDigits (n value : Nat) : (codeDigits n value).length = n := by
  induction n generalizing value with
  | zero => rfl
  | succ n ih => exact congrArg (· + 1) (ih _)

theorem mem_codeDigits (n value : Nat) : ∀ c ∈ codeDigits n value, c ∈ codeAlphabet := by
  induction n generalizing value with
  | zero => nofun
  | succ n ih =>
    intro c hc
    rcases List.mem_cons.mp hc with rfl | hc
    · have hlt : value % codeAlphabet.length < codeAlphabet.length := Nat.mod_lt _ (by decide)
      rw [List.getD_eq_getElem?_getD, List.getElem?_eq_getElem hlt]
      exact List.getElem_mem hlt
    · exact ih _ c hc

/-- What `_short_code` makes of a hash value is a code. -/
theorem shortCodeOf_eq (value : Nat) : ∃ code : Code, shortCodeOf value = code.text := by
  refine ⟨⟨codeDigits 6 value, ?_, mem_codeDigits 6 value⟩, rfl⟩
  rw [length_codeDigits]
  decide

/-- What the characters of a code are. -/
structure Plain (u : Unicode) (c : Char) : Prop where
  alnum : alnum c = true
  word : u.word c = true
  upper : u.upper c = [c]

theorem ascii_of_mem {c : Char} (h : c ∈ codeAlphabet) : c.toNat < 128 := by
  have hall : ∀ d ∈ codeAlphabet, d.toNat < 128 := by decide
  exact hall c h

theorem notSpace_of_mem {c : Char} (h : c ∈ codeAlphabet) : isSpaceChar c = false := by
  have hall : ∀ d ∈ codeAlphabet, isSpaceChar d = false := by decide
  exact hall c h

theorem plain_of_mem {c : Char} (h : c ∈ codeAlphabet) : Plain u c := by
  have hall : ∀ d ∈ codeAlphabet, TrackingCode.alnum d = true ∧
      (d.isAlphanum || d == '_') = true ∧ d.toUpper = d := by decide
  obtain ⟨halnum, hword, hupper⟩ := hall c h
  exact ⟨halnum, (u.word_ascii c (ascii_of_mem h)).trans hword,
    by rw [u.upper_ascii c (ascii_of_mem h), hupper]⟩

theorem strip_of_ends {x : List Char} (hhead : ∀ c, x.head? = some c → isSpaceChar c = false)
    (hlast : ∀ c, x.getLast? = some c → isSpaceChar c = false) : strip x = x := by
  unfold strip
  have hfront : x.dropWhile isSpaceChar = x := by
    cases x with
    | nil => rfl
    | cons c x => exact List.dropWhile_cons_of_neg (by rw [hhead c rfl]; exact Bool.false_ne_true)
  rw [hfront]
  apply List.rdropWhile_eq_self_iff.mpr
  intro hne
  rw [hlast _ (List.getLast?_eq_some_getLast hne)]
  exact Bool.false_ne_true

theorem upper_of_plain {x : List Char} (h : ∀ c ∈ x, u.upper c = [c]) : upper u x = x := by
  unfold upper
  induction x with
  | nil => rfl
  | cons c x ih =>
    rw [List.flatMap_cons, h c List.mem_cons_self, ih fun d hd => h d (List.mem_cons_of_mem c hd)]
    rfl

theorem Code.mem_text {code : Code} {c : Char} (h : c ∈ code.text) : c = '#' ∨ c ∈ codeAlphabet := by
  rcases List.mem_cons.mp h with rfl | h
  · exact Or.inl rfl
  · exact Or.inr (code.alphabet c h)

theorem upper_text (code : Code) : upper u code.text = code.text := by
  apply upper_of_plain
  intro c hc
  rcases code.mem_text hc with rfl | hc
  · exact u.upper_ascii '#' (by decide)
  · exact (plain_of_mem hc).upper

theorem strip_text (code : Code) : strip code.text = code.text := by
  have hspace : ∀ c ∈ code.text, isSpaceChar c = false := by
    intro c hc
    rcases code.mem_text hc with rfl | hc
    · decide
    · exact notSpace_of_mem hc
  exact strip_of_ends (fun c hc => hspace c (List.mem_of_mem_head? hc))
    fun c hc => hspace c (List.mem_of_getLast? hc)

/-! ### The code in front of nothing -/

/-- Where a code starts, the short pattern takes all of it first. -/
theorem go_body {body : List Char} (halnum : ∀ c ∈ body, alnum c = true)
    (hlength : 6 ≤ body.length ∧ body.length ≤ 8)
    (hword : (Re.last (some '#') body).any u.word = true) {b : Option Char}
    (hb : b.any alnum = false) : ∃ rest,
      (shortCode u).go (b, '#' :: body) = (Re.last (some '#') body, []) :: rest := by
  obtain ⟨rest, hrest⟩ := Re.go_times (p := alnum) (m := 6) (n := 2) halnum hlength.1 hlength.2
    (some '#')
  have hbehind : (Re.notBehind alnum).go (b, '#' :: body) = [(b, '#' :: body)] :=
    if_neg (by rw [hb]; exact Bool.false_ne_true)
  have hsharp : (Re.chars (· == '#')).go (b, '#' :: body) = [(some '#', body)] := rfl
  have hends : (Re.boundary u.word).go (Re.last (some '#') body, []) =
      [(Re.last (some '#') body, [])] := by
    refine if_neg ?_
    show ¬(Re.last (some '#') body).any u.word = false
    rw [hword]
    nofun
  refine ⟨rest.flatMap (Re.boundary u.word).go, ?_⟩
  show ((Re.notBehind alnum).go (b, '#' :: body)).flatMap (Re.seq _ _).go = _
  rw [hbehind, List.flatMap_singleton]
  show ((Re.chars (· == '#')).go (b, '#' :: body)).flatMap (Re.seq _ _).go = _
  rw [hsharp, List.flatMap_singleton]
  show ((Re.times (.chars alnum) 6 2).go (some '#', body)).flatMap (Re.boundary u.word).go = _
  rw [hrest, List.flatMap_cons, hends]
  rfl

theorem go_shortCode (code : Code) {b : Option Char} (hb : b.any alnum = false) :
    ∃ rest, (shortCode u).go (b, code.text) = (Re.last (some '#') code.body, []) :: rest := by
  have hne : code.body ≠ [] := by
    intro hnil
    have hlength := code.length.1
    rw [hnil] at hlength
    cases hlength
  have hword : (Re.last (some '#') code.body).any u.word = true := by
    unfold Re.last
    rw [List.getLast?_eq_some_getLast hne]
    exact (plain_of_mem (code.alphabet _ (List.getLast_mem hne))).word
  exact go_body (fun c hc => (plain_of_mem (u := u) (code.alphabet c hc)).alnum) code.length hword hb

theorem fullmatch_code (code : Code) : fullmatch (shortCode u) code.text = true := by
  obtain ⟨rest, hrest⟩ := go_shortCode (u := u) code (b := none) rfl
  unfold fullmatch
  rw [hrest]
  rfl

/-- A code that the short pattern takes whole is found first. -/
theorem search_of_go {body : List Char} {b : Option Char} {i : Option Char} {rest : List Place}
    (h : (shortCode u).go (b, '#' :: body) = (i, []) :: rest) :
    (paTrackingCode u).search b ('#' :: body) = some ('#' :: body) := by
  have hgo : (paTrackingCode u).go (b, '#' :: body) = (i, []) ::
      (rest ++ (Re.oneOf [legacyPoolCode u, legacyTrackingCode u]).go (b, '#' :: body)) := by
    show (shortCode u).go (b, '#' :: body) ++ _ = _
    rw [h]
    rfl
  have hfirst : (paTrackingCode u).first b ('#' :: body) = some ('#' :: body).length := by
    unfold Re.first
    rw [hgo]
    exact if_pos (Nat.zero_lt_succ _)
  exact (Re.search_of_first hfirst).trans (congrArg some List.take_length)

theorem search_code (code : Code) {b : Option Char} (hb : b.any alnum = false) :
    (paTrackingCode u).search b code.text = some code.text := by
  obtain ⟨rest, hrest⟩ := go_shortCode (u := u) code hb
  exact search_of_go hrest

theorem codeOf_code (code : Code) : codeOf u code.text = code.text := by
  unfold codeOf
  rw [strip_text, upper_text]
  have hbracket : ∀ c ∈ code.text, ¬(c == '[' || c == ']') = true := by
    intro c hc
    rcases code.mem_text hc with rfl | hc
    · decide
    · have hall : ∀ d ∈ codeAlphabet, ¬(d == '[' || d == ']') = true := by decide
      exact hall c hc
  have hfront : code.text.dropWhile (fun c => c == '[' || c == ']') = code.text :=
    List.dropWhile_cons_of_neg (hbracket '#' List.mem_cons_self)
  dsimp only
  rw [hfront]
  apply List.rdropWhile_eq_self_iff.mpr
  exact fun hne => hbracket _ (List.getLast_mem hne)

/-- Every code can be appended. -/
theorem append_code (title : List Char) (code : Code) :
    appendTrackingCodeForCode u title code.text =
      .ok (if keptTitle u title (149 - code.text.length) = [] then code.text
        else keptTitle u title (149 - code.text.length) ++ ' ' :: code.text) := by
  have hlength : code.text.length ≤ 9 := by
    show code.body.length + 1 ≤ 9
    have := code.length.2
    omega
  have hroom : ¬titleMaxLength ≤ (' ' :: code.text).length := by
    show ¬150 ≤ code.text.length + 1
    omega
  have hkept : titleMaxLength - (' ' :: code.text).length = 149 - code.text.length := by
    show 150 - (code.text.length + 1) = _
    omega
  unfold appendTrackingCodeForCode
  rw [strip_text, upper_text]
  dsimp only
  rw [fullmatch_code, if_neg (by decide), if_neg hroom, hkept]

/-! ### Where the sanitizer falls apart -/

theorem blind_literal {t : String} {c : Char} (h : ∀ l ∈ t.toList, (c == l) = false) :
    (literal t).Blind c := by
  apply Re.blind_cat
  intro s hs
  obtain ⟨l, hl, rfl⟩ := List.mem_map.mp hs
  exact h l hl

theorem blind_literalI {t : String} {c : Char} (h : ∀ l ∈ t.toList, ignoreCase l c = false) :
    (literalI t).Blind c := by
  apply Re.blind_cat
  intro s hs
  obtain ⟨l, hl, rfl⟩ := List.mem_map.mp hs
  exact h l hl

/-- The characters at which words and numbers end. -/
def separators : List Char := ['#', ' ', '-']

variable {c : Char}

theorem word_separator (hc : c ∈ separators) : u.word c = false := by
  have hall : ∀ d ∈ separators, d.toNat < 128 ∧ (d.isAlphanum || d == '_') = false := by decide
  obtain ⟨hascii, hword⟩ := hall c hc
  exact (u.word_ascii c hascii).trans hword

theorem digit_separator (hc : c ∈ separators) : u.digit c = false := by
  have hall : ∀ d ∈ separators, d.toNat < 128 ∧ d.isDigit = false := by decide
  obtain ⟨hascii, hdigit⟩ := hall c hc
  exact (u.digit_ascii c hascii).trans hdigit

theorem hostChar_space : hostChar u ' ' = false := by
  unfold hostChar
  rw [word_separator (by decide)]
  decide

/-- No web address reads a blank. -/
theorem blind_webAddress : (webAddress u).Blind ' ' := by
  have hpath : pathChar ' ' = false := by decide
  constructor
  · apply Re.blind_cat
    intro s hs
    simp only [List.mem_cons, List.not_mem_nil, or_false] at hs
    rcases hs with rfl | rfl | rfl
    · trivial
    · refine ⟨Re.blind_cat ?_, blind_literalI (by decide)⟩
      intro s hs
      simp only [List.mem_cons, List.not_mem_nil, or_false] at hs
      rcases hs with rfl | rfl | rfl
      · exact blind_literalI (by decide)
      · exact ⟨blind_literalI (by decide), trivial⟩
      · exact blind_literalI (by decide)
    · exact ⟨hpath, hpath⟩
  · apply Re.blind_cat
    intro s hs
    simp only [List.mem_cons, List.not_mem_nil, or_false] at hs
    rcases hs with rfl | rfl | rfl | rfl | rfl
    · trivial
    · have hhost : (Re.cat [.plus (.chars (hostChar u)), literal "."]).Blind ' ' :=
        ⟨⟨hostChar_space, hostChar_space⟩, blind_literal (by decide)⟩
      exact ⟨hhost, hhost⟩
    · apply Re.blind_oneOf
      intro s hs
      simp only [List.mem_cons, List.not_mem_nil, or_false] at hs
      rcases hs with rfl | rfl | rfl | rfl | rfl | rfl | rfl | rfl | rfl | rfl <;>
        exact blind_literalI (by decide)
    · exact word_separator (by decide)
    · exact ⟨⟨blind_literal (by decide), hpath⟩, trivial⟩

/-- No tracking code does. -/
theorem blind_paTrackingCode : (paTrackingCode u).Blind ' ' := by
  have halnum : (Re.chars alnum).Blind ' ' := by
    show alnum ' ' = false
    decide
  have hhex : (Re.chars hexDigit).Blind ' ' := by
    show hexDigit ' ' = false
    decide
  have hdigits : (digits u).Blind ' ' := ⟨digit_separator (by decide), digit_separator (by decide)⟩
  have hsharp : (Re.chars (· == '#')).Blind ' ' := by
    show (' ' == '#') = false
    decide
  refine ⟨?_, ?_, ?_⟩
  · exact ⟨trivial, hsharp, Re.blind_times halnum 6 2, word_separator (by decide)⟩
  · refine ⟨trivial, hsharp, hdigits, ?_, Re.blind_times halnum 5 3, word_separator (by decide)⟩
    show (' ' == '-') = false
    decide
  · refine ⟨blind_literalI (by decide), ⟨?_, ?_⟩, blind_literalI (by decide)⟩
    · exact ⟨blind_literalI (by decide), hdigits, blind_literalI (by decide), hdigits⟩
    · exact ⟨blind_literalI (by decide), hdigits, blind_literalI (by decide), hdigits,
        blind_literalI (by decide), Re.blind_times hhex 8 0⟩

theorem blind_bannedYear (hc : c ∈ separators) : (bannedYear u).Blind c := by
  have hliteral : ∀ t ∈ ["20", "18", "13", "16", "17"], (literal t).Blind c := by
    intro t ht
    apply blind_literal
    have hall : ∀ d ∈ separators, ∀ t ∈ ["20", "18", "13", "16", "17"], ∀ l ∈ t.toList,
        (d == l) = false := by decide
    exact hall c hc t ht
  refine ⟨word_separator hc, hliteral _ (by decide), ?_, word_separator hc⟩
  exact ⟨hliteral _ (by decide), hliteral _ (by decide), hliteral _ (by decide),
    hliteral _ (by decide)⟩

theorem blind_bannedNumber (hc : c ∈ separators) {t : String} (ht : t ∈ ["13", "18"]) :
    (bannedNumber u t).Blind c := by
  have hall : ∀ d ∈ separators, (d == 'x') = false ∧ ∀ t ∈ ["13", "18"], ∀ l ∈ t.toList,
      (d == l) = false := by decide
  obtain ⟨hx, hliteral⟩ := hall c hc
  refine ⟨trivial, blind_literal (hliteral t ht), ?_⟩
  show (u.digit c || c == 'x') = false
  rw [digit_separator hc, hx]
  rfl

/-- A banned word, in small letters. -/
def bannedWords : List String := ["voice", "chat", "verified", "hack", "ed", "ing", "s"]

theorem blind_bannedWord (hc : c ∈ separators) {t : String} (ht : t ∈ bannedWords) :
    (literalI t).Blind c := by
  apply blind_literalI
  have hall : ∀ d ∈ separators, ∀ t ∈ bannedWords, ∀ l ∈ t.toList, ignoreCase l d = false := by
    decide
  exact hall c hc t ht

theorem blind_voiceWord (hc : c ∈ separators) (hspace : isSpaceChar c = false) {t : String}
    (ht : t ∈ bannedWords) :
    (Re.cat [.boundary u.word, literalI "voice", spaces, literalI t, .boundary u.word]).Blind c :=
  ⟨word_separator hc, blind_bannedWord hc (by decide), hspace, blind_bannedWord hc ht,
    word_separator hc⟩

theorem blind_voice (hc : c ∈ separators) : (voice u).Blind c :=
  ⟨word_separator hc, blind_bannedWord hc (by decide), word_separator hc⟩

theorem blind_hack (hc : c ∈ separators) : (hack u).Blind c := by
  refine ⟨word_separator hc, blind_bannedWord hc (by decide), ⟨?_, trivial⟩, word_separator hc⟩
  exact ⟨blind_bannedWord hc (by decide), blind_bannedWord hc (by decide),
    blind_bannedWord hc (by decide)⟩

/-- **The sanitizer works on each side of the # by itself.** -/
theorem clean_append (b : Option Char) (x y : List Char) :
    clean u b (x ++ '#' :: y) = clean u b x ++ '#' :: clean u (some '#') y := by
  have hmap : (x ++ '#' :: y).map ascii = x.map ascii ++ '#' :: y.map ascii := by
    rw [List.map_append]
    rfl
  have hprintable : (Re.chars notPrintable).Blind '#' := by
    show notPrintable '#' = false
    decide
  have hblank : (Re.chars blank).Blind '#' := by
    show blank '#' = false
    decide
  have hhash : '#' ∈ separators := by decide
  have hchat : (voiceChat u).Blind '#' := blind_voiceWord hhash (by decide) (by decide)
  have hverified : (voiceVerified u).Blind '#' := blind_voiceWord hhash (by decide) (by decide)
  have hspaces : (Re.cat [literal ",", spaces, literal ","]).Blind '#' :=
    ⟨blind_literal (by decide), (by decide : isSpaceChar '#' = false), blind_literal (by decide)⟩
  unfold clean
  dsimp only
  rw [hmap, Re.sub_append hprintable _ (Nat.zero_le _),
    Re.sub_append (Re.blind_atLeast (blind_literal (by decide)) 2) _ (Nat.zero_le _),
    Re.sub_append (blind_bannedYear hhash) _ (Nat.zero_le _),
    Re.sub_append (blind_bannedNumber hhash (by decide)) _ (Nat.zero_le _),
    Re.sub_append (blind_bannedNumber hhash (by decide)) _ (Nat.zero_le _),
    Re.sub_append hchat _ (Nat.zero_le _), Re.sub_append hverified _ (Nat.zero_le _),
    Re.sub_append (blind_voice hhash) _ (Nat.zero_le _),
    Re.sub_append (blind_hack hhash) _ (Nat.zero_le _),
    Re.sub_append (Re.blind_atLeast hblank 2) _ (Nat.zero_le _),
    Re.sub_append hspaces _ (Nat.zero_le _)]

/-- No web address is made of the characters of a code. -/
theorem blocked_webAddress : (webAddress u).Blocked (· ∈ '#' :: codeAlphabet) := by
  have hliteral : ∀ {t : String} {l : Char}, l ∈ t.toList →
      (∀ c ∈ '#' :: codeAlphabet, ignoreCase l c = false) →
      (literalI t).Blocked (· ∈ '#' :: codeAlphabet) := by
    intro t l hl hc
    exact Re.blocked_cat (List.mem_map.mpr ⟨l, hl, rfl⟩) hc
  constructor
  · refine Or.inr (Or.inl ⟨?_, hliteral (l := '.') (by decide) (by decide)⟩)
    exact Or.inr (Or.inr (hliteral (l := ':') (by decide) (by decide)))
  · refine Or.inr (Or.inl (Or.inl (Or.inr ?_)))
    show ∀ c ∈ '#' :: codeAlphabet, (c == '.') = false
    decide

/-- The web addresses of a title stand in front of the code. -/
theorem webAddress_append {x w : List Char} (hw : ∀ c ∈ w, c ∈ codeAlphabet)
    (hx : x = [] ∨ ∃ y, x = y ++ [' ']) :
    (webAddress u).sub (fun _ => []) none 0 (x ++ '#' :: w) =
      (webAddress u).sub (fun _ => []) none 0 x ++ '#' :: w := by
  have hcode : ∀ c ∈ '#' :: w, c ∈ '#' :: codeAlphabet := by
    intro c hc
    rcases List.mem_cons.mp hc with rfl | hc
    · exact List.mem_cons_self
    · exact List.mem_cons_of_mem _ (hw c hc)
  have hkept : ∀ b, (webAddress u).sub (fun _ => []) b 0 ('#' :: w) = '#' :: w :=
    fun b => Re.sub_blocked blocked_webAddress hcode
  rcases hx with rfl | ⟨y, rfl⟩
  · exact hkept none
  · rw [List.append_assoc]
    show (webAddress u).sub _ none 0 (y ++ ' ' :: ('#' :: w)) = _
    rw [Re.sub_append blind_webAddress _ (Nat.zero_le _), hkept,
      Re.sub_append blind_webAddress [] (Nat.zero_le _), List.append_assoc]
    rfl

/-! ### The title in front -/

/-- The text ends with a blank, or is empty. -/
def Spaced (x : List Char) : Prop := x = [] ∨ x.getLast? = some ' '

/-- A substitution that never takes the last blank away. -/
theorem Spaced.sub {x : List Char} (h : Spaced x) {r : Re} {rep : List Char → List Char}
    {b : Option Char}
    (hr : ∀ m, r.Matches m → m.getLast? = some ' ' → (rep m).getLast? = some ' ') :
    Spaced (r.sub rep b 0 x) := by
  rcases h with rfl | hlast
  · exact Or.inl rfl
  · exact Or.inr ((Re.sub_rewrites r rep b x).getLast? hr hlast)

/-- One that reads no blank. -/
theorem Spaced.sub_blind {x : List Char} (h : Spaced x) {r : Re} {rep : List Char → List Char}
    {b : Option Char} (hr : r.Blind ' ') : Spaced (r.sub rep b 0 x) := by
  apply h.sub
  intro m hm hlast
  exact absurd (hm.reads _ (List.mem_of_getLast? hlast)) hr.not_reads

/-- One whose matches end in something else. -/
theorem Spaced.sub_closes {x : List Char} (h : Spaced x) {r : Re} {rep : List Char → List Char}
    {b : Option Char} (hr : r.Closes (· ≠ ' ')) : Spaced (r.sub rep b 0 x) := by
  apply h.sub
  intro m hm hlast
  have hne : m ≠ [] := by
    rintro rfl
    cases hlast
  have hclose := hm.closes hr hne
  rw [List.getLast?_eq_some_getLast hne] at hlast
  exact absurd (Option.some.inj hlast) hclose

theorem closes_literalI {t : String} (ht : t ∈ ["chat", "verified"]) :
    (literalI t).Closes (· ≠ ' ') := by
  have hall : ∀ t ∈ ["chat", "verified"], t.toList ≠ [] ∧ ∀ l ∈ t.toList,
      ignoreCase l ' ' = false := by decide
  obtain ⟨hne, hl⟩ := hall t ht
  apply Re.closes_cat
  · intro hnil
    exact hne (List.map_eq_nil_iff.mp hnil)
  · intro s hs
    obtain ⟨l, hmem, rfl⟩ := List.mem_map.mp hs
    rintro d hd rfl
    rw [hl l hmem] at hd
    cases hd

theorem Spaced.clean {x : List Char} (h : Spaced x) (b : Option Char) : Spaced (clean u b x) := by
  have hspace : ' ' ∈ separators := by decide
  have hprintable : (Re.chars notPrintable).Blind ' ' := by
    show notPrintable ' ' = false
    decide
  have hascii : Spaced (x.map ascii) := by
    rcases h with rfl | hlast
    · exact Or.inl rfl
    · refine Or.inr ?_
      rw [List.getLast?_map, hlast]
      rfl
  have hcomma : (Re.cat [literal ",", spaces, literal ","]).Closes (· ≠ ' ') := by
    refine Or.inl (Or.inl ?_)
    rintro d hd rfl
    cases hd
  unfold TrackingCode.clean
  refine Spaced.sub_closes ?_ hcomma
  refine Spaced.sub ?_ fun _ _ _ => rfl
  refine Spaced.sub_blind ?_ (blind_hack hspace)
  refine Spaced.sub_blind ?_ (blind_voice hspace)
  refine Spaced.sub_closes ?_
    (Or.inl (Or.inl (Or.inl (Or.inr ⟨trivial, closes_literalI (by decide)⟩))))
  refine Spaced.sub_closes ?_
    (Or.inl (Or.inl (Or.inl (Or.inr ⟨trivial, closes_literalI (by decide)⟩))))
  refine Spaced.sub_blind ?_ (blind_bannedNumber hspace (by decide))
  refine Spaced.sub_blind ?_ (blind_bannedNumber hspace (by decide))
  refine Spaced.sub_blind ?_ (blind_bannedYear hspace)
  refine Spaced.sub_blind ?_ (Re.blind_atLeast (blind_literal (by decide)) 2)
  exact hascii.sub_blind hprintable

/-! ### The code behind the # -/

/-- How many characters stand in front of the first dash. -/
def free (x : List Char) : Nat := (x.takeWhile (· ≠ '-')).length

theorem free_le_length (x : List Char) : free x ≤ x.length :=
  (List.takeWhile_prefix _).length_le

theorem free_append {m : List Char} (h : ∀ c ∈ m, c ≠ '-') (x : List Char) :
    free (m ++ x) = m.length + free x := by
  unfold free
  rw [List.takeWhile_append_of_pos (by simpa using h), List.length_append]

theorem free_dash (x : List Char) : free ('-' :: x) = 0 := rfl

theorem free_cons {c : Char} (hc : c ≠ '-') (x : List Char) : free (c :: x) = free x + 1 := by
  unfold free
  rw [List.takeWhile_cons_of_pos (by simpa using hc), List.length_cons]

/-- What is replaced has no dash, and a dash comes in earlier than it ended. -/
def Spoils (m m' : List Char) : Prop :=
  (∀ c ∈ m, c ≠ '-') ∧
    (m' = [] ∨ ∃ p q, m' = p ++ '-' :: q ∧ (∀ c ∈ p, c ≠ '-') ∧ p.length < m.length)

theorem Spoils.free_lt {m m' : List Char} (h : Spoils m m') (hm : m ≠ []) {x y : List Char}
    (hxy : free y ≤ free x) : free (m' ++ y) < m.length + free x := by
  obtain ⟨-, rfl | ⟨p, q, rfl, hp, hlt⟩⟩ := h
  · have := List.length_pos_iff.mpr hm
    rw [List.nil_append]
    omega
  · rw [List.append_assoc, free_append hp, List.cons_append, free_dash]
    omega

/-- A rewriting that spoils leaves the text as it is, or a dash before its end.  The induction is
on the rewriting. -/
theorem free_of_rewrites {M : List Char → Prop} {rep : List Char → List Char} {x y : List Char}
    (h : Re.Rewrites M rep x y) (hM : ∀ m, M m → Spoils m (rep m)) :
    free y ≤ free x ∧ ((∀ c ∈ x, c ≠ '-') → y = x ∨ free y < x.length) := by
  induction h with
  | nil => exact ⟨le_refl _, fun _ => Or.inl rfl⟩
  | @keep c x y _ ih =>
    obtain ⟨hle, hkept⟩ := ih
    by_cases hc : c = '-'
    · subst hc
      exact ⟨le_refl _, fun hx => absurd rfl (hx '-' List.mem_cons_self)⟩
    · rw [free_cons hc, free_cons hc]
      refine ⟨Nat.succ_le_succ hle, fun hx => ?_⟩
      rcases hkept fun d hd => hx d (List.mem_cons_of_mem c hd) with rfl | hlt
      · exact Or.inl rfl
      · exact Or.inr (Nat.succ_lt_succ hlt)
  | @replace m hm hMm x y _ ih =>
    obtain ⟨hle, -⟩ := ih
    have hspoils := hM m hMm
    have hlt := hspoils.free_lt hm hle
    rw [free_append hspoils.1]
    refine ⟨le_of_lt hlt, fun _ => Or.inr ?_⟩
    have := free_le_length x
    rw [List.length_append]
    omega

/-- What becomes of the characters `w` of a code: they are kept, or too few of them stand in front
of the first dash. -/
structure Tail (w x : List Char) : Prop where
  chars : ∀ c ∈ x, c ∈ '-' :: codeAlphabet
  kept : x = w ∨ free x < w.length

theorem Tail.start {w : List Char} (hw : ∀ c ∈ w, c ∈ codeAlphabet) : Tail w w :=
  ⟨fun c hc => List.mem_cons_of_mem _ (hw c hc), Or.inl rfl⟩

theorem ne_dash_of_mem {c : Char} (hc : c ∈ codeAlphabet) : c ≠ '-' := by
  rintro rfl
  revert hc
  decide

/-- One step of the sanitizer. -/
theorem Tail.sub {w x : List Char} (h : Tail w x) (hw : ∀ c ∈ w, c ∈ codeAlphabet) {r : Re}
    {rep : List Char → List Char} {b : Option Char} (hdash : r.Blind '-')
    (hrep : ∀ m, r.Matches m → rep m = [] ∨ ∃ p q, rep m = p ++ '-' :: q ∧ (∀ c ∈ p, c ≠ '-') ∧
      p.length < m.length)
    (hnew : ∀ m, r.Matches m → (∀ c ∈ m, c ∈ '-' :: codeAlphabet) →
      ∀ c ∈ rep m, c ∈ '-' :: codeAlphabet) : Tail w (r.sub rep b 0 x) := by
  have hrewrites := Re.sub_rewrites r rep b x
  have hspoils : ∀ m, r.Matches m → Spoils m (rep m) := by
    intro m hm
    refine ⟨?_, hrep m hm⟩
    rintro c hc rfl
    exact hdash.not_reads (hm.reads _ hc)
  obtain ⟨hle, hkept⟩ := free_of_rewrites hrewrites hspoils
  refine ⟨hrewrites.forall_mem hnew h.chars, ?_⟩
  rcases h.kept with rfl | hlt
  · exact hkept fun c hc => ne_dash_of_mem (hw c hc)
  · exact Or.inr (lt_of_le_of_lt hle hlt)

/-- A step that takes words away. -/
theorem Tail.sub_word {w x : List Char} (h : Tail w x) (hw : ∀ c ∈ w, c ∈ codeAlphabet) {r : Re}
    {b : Option Char} (hdash : r.Blind '-') : Tail w (r.sub (fun _ => []) b 0 x) :=
  h.sub hw hdash (fun _ _ => Or.inl rfl) fun _ _ _ _ hc => by cases hc

/-- A step that cannot match there. -/
theorem Tail.sub_blocked {w x : List Char} (h : Tail w x) {r : Re} {rep : List Char → List Char}
    {b : Option Char} (hr : r.Blocked (· ∈ '-' :: codeAlphabet)) : Tail w (r.sub rep b 0 x) := by
  rw [Re.sub_blocked hr h.chars]
  exact h

theorem width_bannedNumber {n : String} (hn : n ∈ ["13", "18"]) :
    (bannedNumber u n).Width 2 := by
  have hliteral : (literal n).Width 2 := by
    simp only [List.mem_cons, List.not_mem_nil, or_false] at hn
    rcases hn with rfl | rfl <;> exact ⟨1, 1, rfl, rfl, rfl⟩
  exact ⟨0, 2, rfl, ⟨2, 0, hliteral, rfl, rfl⟩, rfl⟩

theorem width_bannedYear : (bannedYear u).Width 4 := by
  have hliteral : ∀ n ∈ ["20", "18", "13", "16", "17"], (literal n).Width 2 := by
    intro n hn
    simp only [List.mem_cons, List.not_mem_nil, or_false] at hn
    rcases hn with rfl | rfl | rfl | rfl | rfl <;> exact ⟨1, 1, rfl, rfl, rfl⟩
  refine ⟨0, 4, rfl, ⟨2, 2, hliteral _ (by decide), ⟨2, 0, ?_, rfl, rfl⟩, rfl⟩, rfl⟩
  exact ⟨hliteral _ (by decide), hliteral _ (by decide), hliteral _ (by decide),
    hliteral _ (by decide)⟩

theorem Tail.clean {w : List Char} (hw : ∀ c ∈ w, c ∈ codeAlphabet) (b : Option Char) :
    Tail w (clean u b w) := by
  have hdash : '-' ∈ separators := by decide
  have hascii : w.map ascii = w := by
    refine (List.map_congr_left (g := id) ?_).trans (List.map_id w)
    exact fun c hc => if_pos (ascii_of_mem (hw c hc))
  have hprintable : (Re.chars notPrintable).Blocked (· ∈ '-' :: codeAlphabet) := by
    show ∀ c ∈ '-' :: codeAlphabet, notPrintable c = false
    decide
  have hstars : (Re.atLeast (literal "*") 2).Blocked (· ∈ '-' :: codeAlphabet) := by
    refine Or.inl ?_
    show ∀ c ∈ '-' :: codeAlphabet, (c == '*') = false
    decide
  have hblank : (Re.atLeast (.chars blank) 2).Blocked (· ∈ '-' :: codeAlphabet) := by
    refine Or.inl ?_
    show ∀ c ∈ '-' :: codeAlphabet, blank c = false
    decide
  have hcomma : (Re.cat [literal ",", spaces, literal ","]).Blocked (· ∈ '-' :: codeAlphabet) := by
    refine Or.inl ?_
    show ∀ c ∈ '-' :: codeAlphabet, (c == ',') = false
    decide
  have hnumber : ∀ (n : String) (rep : List Char) {x : List Char}, n ∈ ["13", "18"] →
      (∃ p q, rep = p ++ '-' :: q ∧ (∀ c ∈ p, c ≠ '-') ∧ p.length < 2) →
      (∀ c ∈ rep, c ∈ '-' :: codeAlphabet) → Tail w x →
      Tail w ((bannedNumber u n).sub (fun _ => rep) b 0 x) := by
    intro n rep x hn hdashed hnew h
    apply h.sub hw (blind_bannedNumber hdash hn)
    · intro m hm
      rw [hm.width (width_bannedNumber hn)]
      exact Or.inr hdashed
    · exact fun _ _ _ => hnew
  unfold TrackingCode.clean
  dsimp only
  rw [hascii]
  refine Tail.sub_blocked ?_ hcomma
  refine Tail.sub_blocked ?_ hblank
  refine Tail.sub_word ?_ hw (blind_hack hdash)
  refine Tail.sub_word ?_ hw (blind_voice hdash)
  refine Tail.sub_word ?_ hw (blind_voiceWord hdash (by decide) (by decide))
  refine Tail.sub_word ?_ hw (blind_voiceWord hdash (by decide) (by decide))
  refine hnumber "18" "1-8".toList (by decide) ⟨['1'], ['8'], rfl, by decide, by decide⟩
    (by decide) ?_
  refine hnumber "13" "1-3".toList (by decide) ⟨['1'], ['3'], rfl, by decide, by decide⟩
    (by decide) ?_
  refine Tail.sub ?_ hw (blind_bannedYear hdash) ?_ ?_
  · exact ((Tail.start hw).sub_blocked hprintable).sub_blocked hstars
  · intro m hm
    refine Or.inr ⟨m.take 2, m.drop 2, rfl, ?_, ?_⟩
    · rintro c hc rfl
      exact (blind_bannedYear hdash).not_reads (hm.reads _ (List.mem_of_mem_take hc))
    · rw [List.length_take, hm.width width_bannedYear]
      decide
  · intro m _ hmem c hc
    rcases List.mem_append.mp hc with hc | hc
    · exact hmem c (List.mem_of_mem_take hc)
    · rcases List.mem_cons.mp hc with rfl | hc
      · exact List.mem_cons_self
      · exact hmem c (List.mem_of_mem_drop hc)

/-! ### What is found behind the title -/

/-- What is read of a # and such characters keeps its length and its dashes. -/
theorem codeOf_tail {v : List Char} (hv : ∀ c ∈ v, c ∈ '-' :: codeAlphabet) :
    codeOf u ('#' :: v) = '#' :: v := by
  have hall : ∀ d ∈ '#' :: '-' :: codeAlphabet, d.toNat < 128 ∧ isSpaceChar d = false ∧
      d.toUpper = d ∧ ¬(d == '[' || d == ']') = true := by decide
  have hmem : ∀ c ∈ '#' :: v, c ∈ '#' :: '-' :: codeAlphabet := by
    intro c hc
    rcases List.mem_cons.mp hc with rfl | hc
    · exact List.mem_cons_self
    · exact List.mem_cons_of_mem _ (hv c hc)
  have hstrip : strip ('#' :: v) = '#' :: v :=
    strip_of_ends (fun c hc => (hall c (hmem c (List.mem_of_mem_head? hc))).2.1)
      fun c hc => (hall c (hmem c (List.mem_of_getLast? hc))).2.1
  have hupper : upper u ('#' :: v) = '#' :: v := by
    apply upper_of_plain
    intro c hc
    obtain ⟨hascii, -, heq, -⟩ := hall c (hmem c hc)
    rw [u.upper_ascii c hascii, heq]
  have hfront : ('#' :: v).dropWhile (fun c => c == '[' || c == ']') = '#' :: v :=
    List.dropWhile_cons_of_neg (hall '#' List.mem_cons_self).2.2.2
  unfold codeOf
  rw [hstrip, hupper]
  dsimp only
  rw [hfront]
  apply List.rdropWhile_eq_self_iff.mpr
  exact fun hne => (hall _ (hmem _ (List.getLast_mem hne))).2.2.2

/-- Codes start with # or a bracket. -/
theorem blocked_paTrackingCode :
    (paTrackingCode u).Blocked (· ∈ '-' :: codeAlphabet) := by
  have hsharp : (Re.chars (· == '#')).Blocked (· ∈ '-' :: codeAlphabet) := by
    show ∀ c ∈ '-' :: codeAlphabet, (c == '#') = false
    decide
  refine ⟨Or.inr (Or.inl hsharp), Or.inr (Or.inl hsharp), Or.inl (Or.inl ?_)⟩
  show ∀ c ∈ '-' :: codeAlphabet, ignoreCase '[' c = false
  decide

theorem free_of_prefix {v x : List Char} (h : v <+: x) (hv : ∀ c ∈ v, c ≠ '-') :
    v.length ≤ free x := by
  obtain ⟨t, rfl⟩ := h
  rw [free_append hv]
  exact Nat.le_add_right _ _

/-- Behind the title the code is found exactly if all of it is there, as it was. -/
theorem search_tail {code : Code} {x : List Char} (hx : Tail code.body x) (k : Nat)
    {b : Option Char} (hb : b.any alnum = false) :
    ((paTrackingCode u).search b ('#' :: x.take k)).map (codeOf u) = some code.text ↔
      x = code.body ∧ code.body.length ≤ k := by
  have hchars : ∀ c ∈ x.take k, c ∈ '-' :: codeAlphabet :=
    fun c hc => hx.chars c (List.mem_of_mem_take hc)
  constructor
  · intro h
    -- what is found starts at the #, and is as long as the code
    have hfound : ∃ n, (paTrackingCode u).search b ('#' :: x.take k) =
        some ('#' :: (x.take k).take n) := by
      cases hfirst : (paTrackingCode u).first b ('#' :: x.take k) with
      | some n =>
        obtain ⟨m, rfl⟩ : ∃ m, n = m + 1 :=
          ⟨n - 1, by have := (Re.first_some hfirst).1; omega⟩
        exact ⟨m, Re.search_of_first hfirst⟩
      | none =>
        rw [Re.search_of_none hfirst, Re.search_blocked blocked_paTrackingCode hchars] at h
        cases h
    obtain ⟨n, hn⟩ := hfound
    rw [hn, Option.map_some,
      codeOf_tail fun c hc => hchars c (List.mem_of_mem_take hc)] at h
    have hbody : (x.take k).take n = code.body := List.tail_eq_of_cons_eq (Option.some.inj h)
    have hfront : code.body <+: x.take k := by
      rw [← hbody]
      exact List.take_prefix _ _
    have hfree : code.body.length ≤ free x :=
      free_of_prefix (hfront.trans (List.take_prefix _ _))
        fun c hc => ne_dash_of_mem (code.alphabet c hc)
    rcases hx.kept with rfl | hlt
    · refine ⟨rfl, ?_⟩
      have hlength := hfront.length_le
      rw [List.length_take] at hlength
      omega
    · omega
  · rintro ⟨rfl, hk⟩
    rw [List.take_of_length_le hk]
    show ((paTrackingCode u).search b code.text).map (codeOf u) = _
    rw [search_code code hb, Option.map_some, codeOf_code]

/-! ### The whole way -/

/-- A blank, or a dash and characters of a code, are nothing to strip behind the #. -/
theorem strip_append {a x : List Char} (hx : ∀ c ∈ x, c ∈ '-' :: codeAlphabet) :
    strip (a ++ '#' :: x) = a.dropWhile isSpaceChar ++ '#' :: x := by
  have hall : ∀ d ∈ '#' :: '-' :: codeAlphabet, isSpaceChar d = false := by decide
  have hmem : ∀ c ∈ '#' :: x, isSpaceChar c = false := by
    intro c hc
    rcases List.mem_cons.mp hc with rfl | hc
    · exact hall _ List.mem_cons_self
    · exact hall c (List.mem_cons_of_mem _ (hx c hc))
  have hfront : (a ++ '#' :: x).dropWhile isSpaceChar = a.dropWhile isSpaceChar ++ '#' :: x := by
    induction a with
    | nil => exact List.dropWhile_cons_of_neg (by rw [hall _ List.mem_cons_self]; nofun)
    | cons c a ih =>
      rw [List.cons_append, List.dropWhile_cons, List.dropWhile_cons]
      split
      · exact ih
      · rfl
  unfold strip
  rw [hfront]
  apply List.rdropWhile_eq_self_iff.mpr
  intro hne
  have hlast : (a.dropWhile isSpaceChar ++ '#' :: x).getLast hne ∈ '#' :: x := by
    rw [List.getLast_append_of_ne_nil hne (List.cons_ne_nil _ _)]
    exact List.getLast_mem _
  rw [hmem _ hlast]
  nofun

/-- What the sanitizer makes of the title in front of the code. -/
def front (u : Unicode) (x : List Char) : List Char :=
  (clean u none ((webAddress u).sub (fun _ => []) none 0 x)).dropWhile isSpaceChar

theorem paSanitize_append {x w : List Char} (hw : ∀ c ∈ w, c ∈ codeAlphabet)
    (hx : x = [] ∨ ∃ y, x = y ++ [' ']) :
    paSanitize u (x ++ '#' :: w) = front u x ++ '#' :: clean u (some '#') w := by
  unfold paSanitize
  rw [if_neg (by simp), webAddress_append hw hx, clean_append,
    strip_append (Tail.clean hw (some '#')).chars]
  rfl

theorem Spaced.front {x : List Char} (h : Spaced x) : Spaced (front u x) := by
  have hsub : Spaced ((webAddress u).sub (fun _ => []) none 0 x) :=
    h.sub_blind blind_webAddress
  have hclean := hsub.clean (u := u) none
  have hdrop : ∀ {y : List Char}, Spaced y → Spaced (y.dropWhile isSpaceChar) := by
    intro y hy
    induction y with
    | nil => exact hy
    | cons c y ih =>
      rw [List.dropWhile_cons]
      split
      · apply ih
        rcases hy with hnil | hlast
        · cases hnil
        · cases y with
          | nil => exact Or.inl rfl
          | cons d y => exact Or.inr hlast
      · exact hy
  exact hdrop hclean

/-! ### Exactly when the code survives -/

/-- A title with a bare # in the place of its code. -/
def withHash (base : List Char) : List Char :=
  if base = [] then ['#'] else base ++ [' ', '#']

/-- Of the title, which comes with a bare #, the sanitizer leaves a text without a code and with
room for the code, and the code it leaves alone; or the title has the same code once more. -/
def Survives (u : Unicode) (base : List Char) (code : Code) : Prop :=
  ((paTrackingCode u).search none ((paSanitize u (withHash base)).take 150) = none ∧
      paSanitize u code.text = code.text ∧
      (paSanitize u (withHash base)).length + code.body.length ≤ 150) ∨
    extractTrackingCode u [(paSanitize u (withHash base)).take 150] = code.text

theorem extract_single (v : List Char) :
    extractTrackingCode u [v] = ((paTrackingCode u).search none v).elim [] (codeOf u) := by
  unfold extractTrackingCode
  cases (paTrackingCode u).search none v <;> rfl

theorem extract_eq_text (v : List Char) (code : Code) :
    extractTrackingCode u [v] = code.text ↔
      ((paTrackingCode u).search none v).map (codeOf u) = some code.text := by
  rw [extract_single]
  cases (paTrackingCode u).search none v with
  | some m => exact (Option.some.injEq _ _).symm ▸ Iff.rfl
  | none => exact iff_of_false (fun h => by cases h) fun h => by cases h

/-- A bare # is no code. -/
theorem search_hash (b : Option Char) : (paTrackingCode u).search b ['#'] = none := by
  have hblocked : (paTrackingCode u).Blocked (· = '#') := by
    have halnum : (Re.chars alnum).Blocked (· = '#') := by
      rintro c rfl
      decide
    refine ⟨Or.inr (Or.inr (Or.inl (Or.inl halnum))), Or.inr (Or.inr (Or.inl (Or.inl ?_))),
      Or.inl (Or.inl ?_)⟩
    · rintro c rfl
      exact digit_separator (by decide)
    · rintro c rfl
      decide
  apply Re.search_blocked hblocked
  exact fun c hc => List.mem_singleton.mp hc

/-- A search sees the title in front and what follows it one after the other. -/
theorem search_front {x : List Char} (h : Spaced x) :
    ∃ (o : Option (List Char)) (b : Option Char), b.any alnum = false ∧
      ∀ z, (paTrackingCode u).search none (x ++ z) = o.or ((paTrackingCode u).search b z) := by
  rcases h with rfl | hlast
  · exact ⟨none, none, rfl, fun z => rfl⟩
  · obtain ⟨y, rfl⟩ := List.getLast?_eq_some_iff.mp hlast
    refine ⟨(paTrackingCode u).search none y, some ' ', by decide, fun z => ?_⟩
    rw [List.append_assoc]
    exact Re.search_append blind_paTrackingCode z

/-- What is sent, when the title in front leaves `k` characters after the #. -/
theorem survives_tail {x t : List Char} {code : Code} (hx : Spaced x) (ht : Tail code.body t)
    (k : Nat) :
    extractTrackingCode u [x ++ '#' :: t.take k] = code.text ↔
      ((paTrackingCode u).search none (x ++ ['#']) = none ∧ t = code.body ∧
        code.body.length ≤ k) ∨ extractTrackingCode u [x ++ ['#']] = code.text := by
  obtain ⟨o, b, hb, hsearch⟩ := search_front (u := u) hx
  rw [extract_eq_text, extract_eq_text, hsearch, hsearch, search_hash, Option.or_none]
  cases o with
  | some m => exact ⟨Or.inr, fun h => h.elim (fun h => by cases h.1) id⟩
  | none =>
    rw [Option.none_or, search_tail ht k hb]
    constructor
    · exact fun h => Or.inl ⟨rfl, h⟩
    · rintro (⟨-, h⟩ | h)
      · exact h
      · cases h

/-- **The title that is sent has the code exactly if it survives**, whatever the title of the row
and of the listing. -/
theorem code_survives_iff (u : Unicode) (row : PaRow) (listingTitle : List Char) (code : Code) :
    (withTrackingCode u row listingTitle code.text).map
        (fun row => extractTrackingCode u [sentTitle u row]) = .ok code.text ↔
      Survives u (keptTitle u (if row.title = [] then listingTitle else row.title)
        (149 - code.text.length)) code := by
  unfold withTrackingCode
  generalize (if row.title = [] then listingTitle else row.title) = title
  rw [append_code]
  generalize keptTitle u title (149 - code.text.length) = base
  obtain ⟨x, hx, htext, hhash⟩ : ∃ x : List Char, (x = [] ∨ ∃ y, x = y ++ [' ']) ∧
      (if base = [] then code.text else base ++ ' ' :: code.text) = x ++ code.text ∧
      withHash base = x ++ ['#'] := by
    unfold withHash
    by_cases hbase : base = []
    · exact ⟨[], Or.inl rfl, if_pos hbase, if_pos hbase⟩
    · refine ⟨base ++ [' '], Or.inr ⟨base, rfl⟩, ?_, ?_⟩
      · rw [if_neg hbase, List.append_assoc]
        rfl
      · rw [if_neg hbase, List.append_assoc]
        rfl
  have hspaced : Spaced x := by
    rcases hx with rfl | ⟨y, rfl⟩
    · exact Or.inl rfl
    · exact Or.inr (List.getLast?_append_of_ne_nil _ (List.cons_ne_nil _ _))
  have htail : Tail code.body (clean u (some '#') code.body) := Tail.clean code.alphabet _
  have hsent : paSanitize u (x ++ code.text) =
      front u x ++ '#' :: clean u (some '#') code.body := paSanitize_append code.alphabet hx
  have hkept : paSanitize u (x ++ ['#']) = front u x ++ ['#'] :=
    paSanitize_append (w := []) nofun hx
  have hcode : paSanitize u code.text = code.text ↔ clean u (some '#') code.body = code.body := by
    have halone : paSanitize u code.text = '#' :: clean u (some '#') code.body :=
      paSanitize_append (x := []) code.alphabet (Or.inl rfl)
    rw [halone]
    exact ⟨fun h => List.tail_eq_of_cons_eq h, fun h => congrArg _ h⟩
  have hresult : ((Except.ok (x ++ code.text) : Except PyError (List Char)).map row.setTitle).map
      (fun row => extractTrackingCode u [sentTitle u row]) = .ok
        (extractTrackingCode u [(paSanitize u (x ++ code.text)).take 150]) := by
    cases row <;> rfl
  rw [htext, hresult, hsent, Except.ok.injEq]
  unfold Survives
  rw [hhash, hkept, hcode]
  by_cases hlong : 150 ≤ (front u x).length
  · -- the # is cut with all that follows
    rw [List.take_append_of_le_length hlong, List.take_append_of_le_length hlong]
    refine ⟨Or.inr, ?_⟩
    rintro (⟨-, -, hroom⟩ | h)
    · rw [List.length_append] at hroom
      have := code.length.1
      omega
    · exact h
  · obtain ⟨k, hk⟩ : ∃ k, 150 = (front u x).length + (k + 1) :=
      ⟨149 - (front u x).length, by omega⟩
    have htake : ∀ t : List Char, (front u x ++ '#' :: t).take 150 =
        front u x ++ '#' :: t.take k := by
      intro t
      rw [hk, List.take_length_add_append]
      rfl
    rw [htake, htake, survives_tail hspaced.front htail k]
    have hroom : (front u x ++ ['#']).length + code.body.length ≤ 150 ↔
        code.body.length ≤ k := by
      rw [List.length_append, List.length_singleton]
      omega
    rw [List.take_nil, hroom]

/-- A code with a 13 in it. -/
def codeWith13 : Code := ⟨"ABC13D".toList, by decide, by decide⟩

/-- `LoL #ABC13D` is sent as `LoL #ABC1-3D`, which has no code. -/
theorem code_lost :
    (withTrackingCode asciiTable (.json "LoL".toList) [] codeWith13.text).map
        (fun row => (sentTitle asciiTable row, extractTrackingCode asciiTable
          [sentTitle asciiTable row])) = .ok ("LoL #ABC1-3D".toList, []) := by
  decide +kernel

end Sda.Posting.TrackingCode
