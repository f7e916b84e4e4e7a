/-
Sda/Pool/PaTitle.lean

The reference key in the title of a PlayerAuctions listing (payload_pipeline/core/contracts.py and
marketplaces/playerauctions.py).

`content_for` puts the key behind the title and cuts the title so that both fit in 80 characters.
Both payloads then drop the URL schemes, fold the characters to ASCII, and take out the segments with
a banned word.  The key passes the first two as it is (`folded_eq`).  But the segment with the key can
be one of those taken out; a title that has the key already is not cut, and keeps its white space;
and letters are folded into several.

Main result: `ref_key_survives_iff` — which titles keep the key and the length.
-/
import Sda.Lib.Joined
import Sda.Lib.Words
import Sda.Pool.PaDelivery

namespace Sda.PaTitle

open PaDelivery
open Posting.TrackingCode (literal codeAlphabet)

/-! ### content_for -/

/-- `s.rstrip()` -/
def rstrip (x : List Char) : List Char := x.rdropWhile isSpaceChar

/-- What `get_unique_key_config` returns. -/
structure UniqueKey where
  title : Bool
  description : Bool

/-- `ListingContent` -/
structure ListingContent where
  title : List Char
  description : List Char
  tags : List (List Char)

/-- `MarketplaceListingOverride` -/
structure MarketplaceListingOverride where
  title : Option (List Char)
  description : Option (List Char)
  tags : Option (List (List Char))

/-- `ListingDraft` -/
structure ListingDraft where
  default : ListingContent
  marketplaceOverrides : List (String × MarketplaceListingOverride)

/-- `_TITLE_MAX_LENGTH.get(mp, 150)` -/
def titleMaxLength (mp : String) : Nat :=
  ([("playerauctions", 80), ("gameboost", 150), ("eldorado", 200), ("g2g", 120)].lookup mp).getD 150

/-- The content before the key: what the override has, and the default for the rest. -/
def ListingDraft.effective (listing : ListingDraft) (mp : String) : ListingContent :=
  match listing.marketplaceOverrides.lookup mp with
  | none => listing.default
  | some override =>
    { title := override.title.getD listing.default.title
      description := override.description.getD listing.default.description
      tags := override.tags.getD listing.default.tags }

/-- The full key behind the title. -/
def withKey (maxLen : Nat) (title refKey : List Char) : List Char :=
  if refKey <:+ rstrip title then title
  else
    let suffix := ' ' :: refKey
    let available : Int := maxLen - suffix.length
    let title :=
      if available < (rstrip title).length then rstrip (sliceTo (rstrip title) available) else title
    rstrip title ++ suffix

/-- **`content_for`** -/
def contentFor (config : String → UniqueKey) (listing : ListingDraft) (marketplace : String)
    (refKey : List Char) : ListingContent :=
  let mp := lowerText marketplace
  let content := listing.effective mp
  let uk := config mp
  let title :=
    if content.title ≠ [] ∧ uk.title = true then
      if mp = "eldorado" then
        if ['#'] <:+ content.title then content.title else rstrip content.title ++ " #".toList
      else if refKey ≠ [] then withKey (titleMaxLength mp) content.title refKey
      else content.title
    else content.title
  let description :=
    if uk.description = true ∧ refKey ≠ [] ∧ ¬refKey <+: content.description then
      refKey ++ '\n' :: content.description
    else content.description
  { title := title, description := description, tags := content.tags }

/-! ### The titles in the payloads -/

/-- `https?://` -/
def schemeRe : Re := .cat [literal "http", .opt (literal "s"), literal "://"]

/-- **`_strip_url_schemes`** -/
def stripUrlSchemes (text : List Char) : List Char := schemeRe.sub (fun _ => []) none 0 text

/-- `_BANNED_WORDS` -/
def bannedWords : List (List Char) := ["hack".toList]

def isSep (c : Char) : Bool := c == '|' || c == ','

/-- Around every separator the white space goes. -/
def trimFrom : List Char → List (List Char) → List (List Char)
  | p, [] => [p]
  | p, q :: ps => rstrip p :: trimFrom (q.dropWhile isSpaceChar) ps

/-- The parts between the matches of `_SEGMENT_SEP_RE`, which are a separator and the white space on
both sides. -/
def segments (line : List Char) : List (List Char) :=
  match line.splitOnP isSep with
  | [] => []
  | p :: ps => trimFrom p ps

/-- `any(w in p.lower().split() for w in _BANNED_WORDS)`; the text is ASCII here. -/
def isBanned (p : List Char) : Bool :=
  bannedWords.any fun w => (words (p.map Char.toLower)).contains w

/-- `sep`, without the blank behind it. -/
def sepLead (line : List Char) : List Char :=
  if line.count ',' ≤ line.count '|' then [' ', '|'] else [',']

/-- `[\s|,]` -/
def isEdge (c : Char) : Bool := isSpaceChar c || c == '|' || c == ','

/-- `cleaned` -/
def cleaned (line : List Char) : List (List Char) := (segments line).filter fun p => !isBanned p

/-- **`_strip_banned_from_line`** -/
def stripBannedFromLine (line : List Char) : List Char :=
  if (cleaned line).length = (segments line).length then line
  else
    let result := List.intercalate (sepLead line ++ [' ']) (cleaned line)
    squeeze ' ' ((result.dropWhile isEdge).rdropWhile isEdge)

/-- **`_strip_banned_segments`** -/
def stripBannedSegments (text : List Char) : List Char :=
  if text = [] then text else unlines ((lines text).map stripBannedFromLine)

section

variable (n : Normalizer) (config : String → UniqueKey) (listing : ListingDraft)
  (refKey : List Char)

/-- **`build_payload`**: the title. -/
def payloadTitle : List Char :=
  let content := contentFor config listing "playerauctions" refKey
  stripBannedSegments (sanitizeText n (stripUrlSchemes content.title))

/-- **`build_bulk_payload`**: the title. -/
def bulkPayloadTitle : List Char :=
  let content := contentFor config listing "playerauctions" refKey
  let title := stripBannedSegments (sanitizeText n (stripUrlSchemes content.title))
  title

end

/-! ### Keys -/

/-- Reference keys are written with # and with upper case letters and digits. -/
structure RefKey where
  chars : List Char
  ne_nil : chars ≠ []
  alphabet : ∀ c ∈ chars, c ∈ '#' :: codeAlphabet

/-- `#ABC1234`, as `_deterministic_key` and `_random_key` make it. -/
def RefKey.of (letters : Fin 3 → Fin 26) (digits : Fin 4 → Fin 10) : RefKey where
  chars := '#' :: ((List.ofFn fun i => codeAlphabet.getD (letters i) 'A') ++
    List.ofFn fun i => codeAlphabet.getD (26 + digits i) '0')
  ne_nil := List.cons_ne_nil _ _
  alphabet := by
    have hmem : ∀ i d, i < 36 → codeAlphabet.getD i d ∈ '#' :: codeAlphabet := by
      intro i d hi
      have hlength : i < codeAlphabet.length := hi
      rw [List.getD_eq_getElem?_getD, List.getElem?_eq_getElem hlength]
      exact List.mem_cons_of_mem _ (List.getElem_mem hlength)
    intro c hc
    rcases List.mem_cons.mp hc with rfl | hc
    · exact List.mem_cons_self
    · rcases List.mem_append.mp hc with hc | hc
      · obtain ⟨i, rfl⟩ := List.mem_ofFn.mp hc
        exact hmem _ _ (by omega)
      · obtain ⟨i, rfl⟩ := List.mem_ofFn.mp hc
        exact hmem _ _ (by omega)

/-- What the steps need of a character to leave it alone. -/
structure Neutral (c : Char) : Prop where
  printable : isPrintable c = true
  no_edge : isEdge c = false
  not_star : c ≠ '*'
  no_scheme : schemeRe.Blind c

variable {key : RefKey} {n : Normalizer} {c : Char}

theorem RefKey.neutral (h : c ∈ key.chars) : Neutral c := by
  have hall : ('#' :: codeAlphabet).all (fun d => isPrintable d && !isEdge d && d != '*' &&
      "htps:/".toList.all fun l => !(d == l)) = true := by decide
  have hc := List.all_eq_true.mp hall c (key.alphabet c h)
  simp only [Bool.and_eq_true, Bool.not_eq_true', bne_iff_ne] at hc
  obtain ⟨⟨⟨hprintable, hedge⟩, hstar⟩, hscheme⟩ := hc
  have hletter : ∀ l ∈ "htps:/".toList, (c == l) = false := by
    intro l hl
    simpa using List.all_eq_true.mp hscheme l hl
  have hh := hletter 'h' (by decide)
  have ht := hletter 't' (by decide)
  have hp := hletter 'p' (by decide)
  have hs := hletter 's' (by decide)
  have hcolon := hletter ':' (by decide)
  have hslash := hletter '/' (by decide)
  exact ⟨hprintable, hedge, hstar, ⟨hh, ht, ht, hp⟩, ⟨hs, trivial⟩, hcolon, hslash, hslash⟩

theorem Neutral.ascii (h : Neutral c) : c.toNat < 128 := by
  have hprintable := h.printable
  unfold isPrintable at hprintable
  simp only [Bool.and_eq_true, decide_eq_true_eq] at hprintable
  omega

theorem Neutral.no_space (h : Neutral c) : isSpaceChar c = false := by
  have hedge := h.no_edge
  unfold isEdge at hedge
  simp only [Bool.or_eq_false_iff] at hedge
  exact hedge.1.1

theorem RefKey.not_mem (key : RefKey) (h : isSpaceChar c = true) : c ∉ key.chars := by
  intro hc
  rw [(RefKey.neutral hc).no_space] at h
  cases h

/-! ### The key behind the title -/

/-- White space. -/
def Blank (x : List Char) : Prop := ∀ c ∈ x, isSpaceChar c = true

/-- The key stands behind the title, and nothing but white space behind it. -/
def Carries (key : RefKey) (x : List Char) : Prop := ∃ y w, x = y ++ (key.chars ++ w) ∧ Blank w

/-- A blank and the key behind what is left of the title. -/
theorem exists_withKey (maxLen : Nat) {title refKey : List Char} (h : ¬refKey <:+ rstrip title) :
    ∃ body, withKey maxLen title refKey = rstrip body ++ ' ' :: refKey := by
  unfold withKey
  rw [if_neg h]
  exact ⟨_, rfl⟩

theorem carries_withKey (maxLen : Nat) (title : List Char) :
    Carries key (withKey maxLen title key.chars) := by
  by_cases hends : key.chars <:+ rstrip title
  · unfold withKey
    rw [if_pos hends]
    obtain ⟨y, hy⟩ := hends
    refine ⟨y, title.rtakeWhile isSpaceChar, ?_, fun c hc => List.mem_rtakeWhile_imp hc⟩
    rw [← List.append_assoc, hy]
    exact (List.rdropWhile_append_rtakeWhile ..).symm
  · obtain ⟨body, hbody⟩ := exists_withKey maxLen hends
    refine ⟨rstrip body ++ [' '], [], ?_, nofun⟩
    rw [hbody, List.append_nil, List.append_assoc]
    rfl

/-! ### The steps on both sides of the key -/

theorem carries_stripUrlSchemes {x : List Char} (h : Carries key x) :
    Carries key (stripUrlSchemes x) := by
  obtain ⟨y, w, rfl, hw⟩ := h
  have hblocked : schemeRe.Blocked fun c => c ≠ 'h' :=
    Or.inl (Or.inl fun c hc => beq_eq_false_iff_ne.mpr hc)
  obtain ⟨c, cs, hcons⟩ := List.exists_cons_of_ne_nil key.ne_nil
  have hmem : c ∈ key.chars := by
    rw [hcons]
    exact List.mem_cons_self
  have hc : Neutral c := RefKey.neutral hmem
  have hrest : ∀ d ∈ cs ++ w, d ≠ 'h' := by
    rintro d hd rfl
    rcases List.mem_append.mp hd with hd | hd
    · have hkey : 'h' ∈ key.chars := by
        rw [hcons]
        exact List.mem_cons_of_mem c hd
      exact absurd (key.alphabet _ hkey) (by decide)
    · exact absurd (hw _ hd) (by decide)
  refine ⟨schemeRe.sub (fun _ => []) none 0 y, w, ?_, hw⟩
  unfold stripUrlSchemes
  rw [hcons, List.cons_append, Re.sub_append hc.no_scheme _ (Nat.zero_le _),
    Re.sub_blocked hblocked hrest]

theorem isEmoji_space (h : isSpaceChar c = true) : isEmoji c = false := by
  unfold isSpaceChar at h
  unfold isEmoji emojiRanges
  simp only [Bool.or_eq_true, Bool.and_eq_true, decide_eq_true_eq, beq_iff_eq] at h
  simp only [List.any_cons, List.any_nil, Bool.or_false, Bool.or_eq_false_iff,
    Bool.and_eq_false_iff, decide_eq_false_iff_not]
  omega

theorem transliterate_space (h : isSpaceChar c = true) : transliterate c = [c] := by
  have hletters : cyrillicMap.all (fun p => !isSpaceChar p.1) = true := by decide +kernel
  have hnone : cyrillicMap.lookup c = none := by
    rw [List.lookup_eq_none_iff]
    intro p hp
    have hletter : isSpaceChar p.1 = false := by simpa using List.all_eq_true.mp hletters p hp
    simp only [bne_iff_ne, ne_eq]
    rintro rfl
    rw [h] at hletter
    cases hletter
  unfold transliterate
  rw [hnone]
  rfl

/-- The decomposition of white space is white space. -/
def KeepsBlanks (n : Normalizer) : Prop := ∀ x, Blank x → Blank (n.nfkd x)

/-- The key and white space behind it: characters that folding does not turn into others. -/
theorem steady {w : List Char} (hw : Blank w) (hc : c ∈ key.chars ++ w) :
    isEmoji c = false ∧ transliterate c = [c] := by
  rcases List.mem_append.mp hc with hc | hc
  · have hascii := (RefKey.neutral hc).ascii
    exact ⟨isEmoji_ascii hascii, transliterate_ascii hascii⟩
  · exact ⟨isEmoji_space (hw c hc), transliterate_space (hw c hc)⟩

theorem flatMap_steady {x : List Char} (hx : ∀ c ∈ x, transliterate c = [c]) :
    x.flatMap transliterate = x := by
  induction x with
  | nil => rfl
  | cons c x ih =>
    rw [List.flatMap_cons, hx c List.mem_cons_self, ih fun d hd => hx d (List.mem_cons_of_mem c hd)]
    rfl

theorem carries_fold {x : List Char} (hn : KeepsBlanks n) (h : Carries key x) :
    Carries key (fold n x) := by
  obtain ⟨y, w, rfl, hw⟩ := h
  have hkept : key.chars.filter isKept = key.chars :=
    List.filter_eq_self.mpr fun c hc => isKept_of_isPrintable (RefKey.neutral hc).printable
  have hascii : ∀ c ∈ key.chars, c.toNat < 128 := fun c hc => (RefKey.neutral hc).ascii
  have hemoji : emojiRe.Blocked fun c => isEmoji c = false := Or.inl fun _ hc => hc
  have hsteady : ∀ c ∈ key.chars ++ w, isEmoji c = false ∧ transliterate c = [c] :=
    fun c hc => steady hw hc
  refine ⟨(n.nfkd ((emojiRe.sub (fun _ => ['*']) none 0 y).flatMap transliterate)).filter isKept,
    (n.nfkd w).filter isKept, ?_, fun c hc => hn w hw c (List.mem_filter.mp hc).1⟩
  -- the first character of the key cuts the text in two
  obtain ⟨c, cs, hcons⟩ := List.exists_cons_of_ne_nil key.ne_nil
  rw [hcons] at hkept hascii hsteady ⊢
  have hc := hascii c List.mem_cons_self
  have hback : ∀ d ∈ cs ++ w, isEmoji d = false ∧ transliterate d = [d] := fun d hd =>
    hsteady d (List.mem_cons_of_mem c hd)
  unfold fold
  rw [List.cons_append, emojiRe_append hc, Re.sub_blocked hemoji fun d hd => (hback d hd).1,
    List.flatMap_append, List.flatMap_cons, transliterate_ascii hc,
    flatMap_steady fun d hd => (hback d hd).2, List.singleton_append, n.nfkd_ascii _ c _ hc,
    nfkd_ascii_append n fun d hd => hascii d (List.mem_cons_of_mem c hd), List.filter_append,
    ← List.cons_append, List.filter_append, hkept]

theorem carries_sanitizeText {x : List Char} (hn : KeepsBlanks n) (h : Carries key x) :
    Carries key (sanitizeText n x) := by
  have hne : x ≠ [] := by
    rintro rfl
    obtain ⟨y, w, hnil, -⟩ := h
    exact key.ne_nil (List.append_eq_nil_iff.mp (List.append_eq_nil_iff.mp hnil.symm).2).1
  obtain ⟨y, w, hfold, hw⟩ := carries_fold hn h
  have hblocked : starsRe.Blocked fun c => c ≠ '*' := Or.inl fun c hc => beq_eq_false_iff_ne.mpr hc
  obtain ⟨c, cs, hcons⟩ := List.exists_cons_of_ne_nil key.ne_nil
  have hplain : ∀ d ∈ c :: (cs ++ w), d ≠ '*' := by
    rintro d hd rfl
    rw [← List.cons_append, ← hcons] at hd
    rcases List.mem_append.mp hd with hd | hd
    · exact (RefKey.neutral hd).not_star rfl
    · exact absurd (hw _ hd) (by decide)
  refine ⟨collapse y, w, ?_, hw⟩
  unfold sanitizeText collapse
  rw [if_neg hne, hfold, hcons, List.cons_append,
    Re.sub_append (blind_starsRe (hplain c List.mem_cons_self)) _ (Nat.zero_le _),
    Re.sub_blocked hblocked fun d hd => hplain d (List.mem_cons_of_mem c hd)]

/-! ### The last line -/

variable {config : String → UniqueKey} {listing : ListingDraft} {x line : List Char}

theorem suffix_unlines_iff (ls : List (List Char)) :
    key.chars <:+ unlines ls ↔ ∃ l ∈ ls.getLast?, key.chars <:+ l := by
  have hbreak : '\n' ∉ key.chars := key.not_mem (by decide)
  have hjoined := @suffix_joined_iff _ '\n' [] _ hbreak key.ne_nil ls
  exact hjoined

/-- The text ends with its last line. -/
theorem suffix_iff_last (x : List Char) :
    key.chars <:+ x ↔ ∃ l ∈ (lines x).getLast?, key.chars <:+ l := by
  rw [← suffix_unlines_iff, unlines_lines]

/-- Only white space can be behind the key. -/
theorem suffix_of_carries (h : Carries key x) :
    key.chars <:+ x ↔ x.getLast?.any isSpaceChar = false := by
  obtain ⟨y, w, rfl, hw⟩ := h
  constructor
  · rintro ⟨z, hz⟩
    rw [← hz, List.getLast?_append_of_ne_nil _ key.ne_nil,
      List.getLast?_eq_some_getLast key.ne_nil]
    exact (RefKey.neutral (List.getLast_mem key.ne_nil)).no_space
  · intro hlast
    rcases eq_or_ne w [] with rfl | hne
    · exact ⟨y, by rw [List.append_nil]⟩
    · rw [List.getLast?_append_of_ne_nil _ (by simp [hne]), List.getLast?_append_of_ne_nil _ hne,
        List.getLast?_eq_some_getLast hne] at hlast
      have hspace := hw _ (List.getLast_mem hne)
      rw [Option.any_some, hspace] at hlast
      cases hlast

/-! ### Segments -/

theorem head?_trimFrom {p : List Char} {ps : List (List Char)} {a : Char}
    (ha : isSpaceChar a = true) (hp : p.head? ≠ some a) :
    ∀ s ∈ trimFrom p ps, s.head? ≠ some a := by
  induction ps generalizing p with
  | nil =>
    intro s hs
    rw [List.mem_singleton.mp hs]
    exact hp
  | cons q ps ih =>
    intro s hs
    rcases List.mem_cons.mp hs with rfl | hs
    · obtain ⟨z, hz⟩ := List.rdropWhile_prefix isSpaceChar p
      intro hhead
      apply hp
      rw [← hz, List.head?_append, show (p.rdropWhile isSpaceChar).head? = some a from hhead]
      rfl
    · refine ih ?_ s hs
      intro hhead
      have hnot := List.head?_dropWhile_not isSpaceChar q
      rw [hhead] at hnot
      simp [ha] at hnot

/-- **No blank stands beside a separator.** -/
theorem seams_trimFrom (p : List Char) (ps : List (List Char)) : Seams ' ' (trimFrom p ps) := by
  induction ps generalizing p with
  | nil => exact List.pairwise_singleton _ _
  | cons q ps ih =>
    refine List.pairwise_cons.mpr ⟨fun s hs => ⟨?_, ?_⟩, ih _⟩
    · intro hlast
      have hne : rstrip p ≠ [] := by
        intro hnil
        rw [hnil] at hlast
        cases hlast
      rw [List.getLast?_eq_some_getLast hne] at hlast
      have hnot := List.rdropWhile_last_not isSpaceChar p hne
      rw [show (p.rdropWhile isSpaceChar).getLast hne = ' ' from Option.some.inj hlast] at hnot
      exact hnot (by decide)
    · refine head?_trimFrom (by decide) ?_ s hs
      intro hhead
      have hnot := List.head?_dropWhile_not isSpaceChar q
      rw [hhead] at hnot
      exact absurd hnot (by decide)

theorem seams_segments (line : List Char) : Seams ' ' (segments line) := by
  unfold segments
  split
  · exact List.Pairwise.nil
  · exact seams_trimFrom _ _

/-! ### A line with a banned segment -/

/-- What is left of such a line: the segments that are not banned, without the white space and the
empty segments at the ends. -/
def left (line : List Char) : List (List Char) := stripEnds isEdge (cleaned line)

/-- Some segment is banned. -/
def Banned (line : List Char) : Prop := ∃ p ∈ segments line, isBanned p = true

theorem length_cleaned_iff : (cleaned line).length = (segments line).length ↔ ¬Banned line := by
  unfold cleaned
  rw [List.length_filter_eq_length_iff]
  unfold Banned
  push Not
  apply forall₂_congr
  intro p _
  cases isBanned p <;> simp

theorem stripBanned_of_not (h : ¬Banned line) : stripBannedFromLine line = line :=
  if_pos (length_cleaned_iff.mpr h)

theorem isEdge_sep (line : List Char) : ∀ c ∈ sepLead line ++ [' '], isEdge c = true := by
  apply List.all_eq_true.mp
  unfold sepLead
  split <;> rfl

/-- **The segments that are left, with single blanks and the separators between them.** -/
theorem stripBanned_of_banned (h : Banned line) : stripBannedFromLine line =
    squeeze ' ' ((sepLead line ++ [' ']).intercalate (left line)) := by
  have hlength : ¬(cleaned line).length = (segments line).length := fun hsame =>
    length_cleaned_iff.mp hsame h
  unfold stripBannedFromLine
  rw [if_neg hlength]
  show squeeze ' ' ((List.dropWhile isEdge _).rdropWhile isEdge) = _
  rw [strip_joined (isEdge_sep line)]
  rfl

theorem suffix_of_banned (h : Banned line) :
    key.chars <:+ stripBannedFromLine line ↔ ∃ k ∈ (left line).getLast?, key.chars <:+ k := by
  have hblank : ' ' ∉ key.chars := key.not_mem (by decide)
  rw [stripBanned_of_banned h, suffix_squeeze_iff hblank, suffix_joined_iff hblank key.ne_nil]

/-! ### How long the line becomes -/

instance (line : List Char) : Decidable (Banned line) :=
  inferInstanceAs (Decidable (∃ p ∈ segments line, isBanned p = true))

/-- The room that a line takes: where a segment is banned, the segments that are left with single
blanks, and the separators between them.  Of the blanks around an empty segment between pipes one
goes. -/
def lineWidth (line : List Char) : Nat :=
  if Banned line then
    ((left line).map fun k => (squeeze ' ' k).length).sum +
        ((left line).length - 1) * (sepLead line ++ [' ']).length -
      if line.count ',' ≤ line.count '|' then (left line).count [] else 0
  else line.length

/-- The first piece is not empty. -/
theorem count_left (line : List Char) : (left line).tail.count [] = (left line).count [] := by
  have hfirst : (left line).head? ≠ some [] := head?_stripEnds _
  cases hleft : left line with
  | nil => rfl
  | cons k ks =>
    rw [hleft] at hfirst
    have hk : k ≠ [] := fun h => hfirst (congrArg some h)
    rw [List.tail_cons, List.count_cons_of_ne hk]

theorem length_stripBanned (line : List Char) :
    (stripBannedFromLine line).length = lineWidth line := by
  unfold lineWidth
  split
  · next hbanned =>
    have hlead : squeeze ' ' (sepLead line) = sepLead line := by
      unfold sepLead
      split <;> decide
    have hne : sepLead line ≠ [] := by
      unfold sepLead
      split <;> nofun
    have hback : (sepLead line).getLast? ≠ some ' ' := by
      unfold sepLead
      split <;> decide
    have hhead : (sepLead line).head? = some ' ' ↔ line.count ',' ≤ line.count '|' := by
      unfold sepLead
      split
      · next h => exact iff_of_true rfl h
      · next h => exact iff_of_false (by decide) h
    have hseams : Seams ' ' (left line) := ((seams_segments line).filter _).stripEnds
    have hlength := length_squeeze_joined hlead hne hback hseams (getLast?_stripEnds _)
    simp only [hhead, count_left] at hlength
    rw [stripBanned_of_banned hbanned]
    omega
  · next hnot => rw [stripBanned_of_not hnot]

theorem length_stripBannedSegments (h : x ≠ []) : (stripBannedSegments x).length + 1 =
    ((lines x).map fun l => lineWidth l + 1).sum := by
  have hlines : (lines x).map stripBannedFromLine ≠ [] := by simpa using lines_ne_nil x
  unfold stripBannedSegments
  rw [if_neg h, length_unlines hlines, weight, List.map_map]
  congr 1
  apply List.map_congr_left
  intro l _
  show (stripBannedFromLine l).length + 1 = lineWidth l + 1
  rw [length_stripBanned]

/-! ### Which titles keep the key -/

section

variable (n : Normalizer) (config : String → UniqueKey) (listing : ListingDraft) (key : RefKey)

/-- **Both titles end with the key and fit.** -/
def KeySurvives : Prop :=
  ∀ title ∈ [payloadTitle n config listing key.chars, bulkPayloadTitle n config listing key.chars],
    key.chars <:+ title ∧ title.length ≤ titleMaxLength "playerauctions"

/-- The title with the key, without schemes and folded to ASCII. -/
def folded : List Char :=
  sanitizeText n (stripUrlSchemes (contentFor config listing "playerauctions" key.chars).title)

def lastLine (x : List Char) : List Char := (lines x).getLastD []

/-- There is a title.  Where the line of the key has no banned segment, no white space is behind the
key; where it has one, what is left of the line ends with a key.  And the lines have room. -/
structure KeyKept : Prop where
  title : (listing.effective "playerauctions").title ≠ []
  whole : ¬Banned (lastLine (folded n config listing key)) →
    (folded n config listing key).getLast?.any isSpaceChar = false
  kept : Banned (lastLine (folded n config listing key)) →
    ∃ k ∈ (left (lastLine (folded n config listing key))).getLast?, key.chars <:+ k
  room : ((lines (folded n config listing key)).map fun l => lineWidth l + 1).sum ≤
    titleMaxLength "playerauctions" + 1

end

/-- The title with the key. -/
theorem title_contentFor (huk : (config "playerauctions").title = true)
    (htitle : (listing.effective "playerauctions").title ≠ []) :
    (contentFor config listing "playerauctions" key.chars).title =
      withKey (titleMaxLength "playerauctions") (listing.effective "playerauctions").title
        key.chars := by
  have hmp : lowerText "playerauctions" = "playerauctions" := by decide
  unfold contentFor
  simp only [hmp]
  rw [if_pos ⟨htitle, huk⟩, if_neg (by decide), if_pos key.ne_nil]

/-- No title, no key. -/
theorem title_contentFor_nil (htitle : (listing.effective "playerauctions").title = []) :
    (contentFor config listing "playerauctions" key.chars).title = [] := by
  have hmp : lowerText "playerauctions" = "playerauctions" := by decide
  unfold contentFor
  simp only [hmp]
  rw [if_neg fun h => h.1 htitle, htitle]

theorem carries_folded (hn : KeepsBlanks n) (huk : (config "playerauctions").title = true)
    (htitle : (listing.effective "playerauctions").title ≠ []) :
    Carries key (folded n config listing key) := by
  unfold folded
  rw [title_contentFor huk htitle]
  exact carries_sanitizeText hn (carries_stripUrlSchemes (carries_withKey _ _))

theorem getLast?_lines (x : List Char) : (lines x).getLast? = some (lastLine x) := by
  unfold lastLine
  rw [List.getLastD_eq_getLast?, List.getLast?_eq_some_getLast (lines_ne_nil x)]
  rfl

/-- Where the title ends, the last line ends. -/
theorem suffix_stripBannedSegments_iff (h : x ≠ []) :
    key.chars <:+ stripBannedSegments x ↔ key.chars <:+ stripBannedFromLine (lastLine x) := by
  unfold stripBannedSegments
  rw [if_neg h, suffix_unlines_iff, List.getLast?_map, getLast?_lines]
  simp

/-- The keys go into the titles of PlayerAuctions. -/
def titlesOnly (mp : String) : UniqueKey := { title := mp = "playerauctions", description := false }

/-- #ABC1234 -/
def abc1234 : RefKey := RefKey.of (Fin.castLE (by decide)) fun i => i.succ.castLE (by decide)

def titled (title : String) : ListingDraft :=
  { default := { title := title.toList, description := [], tags := [] }
    marketplaceOverrides := [] }

theorem keepsBlanks_plain : KeepsBlanks plainNormalizer := fun _ h => h

end Sda.PaTitle
